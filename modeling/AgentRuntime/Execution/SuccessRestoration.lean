import AgentRuntime.Execution.MirrorRepair
import AgentRuntime.Store.LedgerIdentity
import AgentRuntime.Store.ActionLedger
import Mathlib.Data.List.DropRight

/-!
# Restoring a recorded success

`_dispatch_external_action` accepts what the tool's output model makes of the provider's result and
commits it; after a crash `restore_success` reads it back and checks it again. The two lists of
checks agree but for one. The dispatch puts the provider's reference into the result before it
validates, and stores the reference beside the result without looking at what the output model made
of it; the restoration requires the two to be equal. An output model may normalize that field as it
may any other, so a success can be recorded, and returned, that no later attempt restores.

`recorded_success_restorable_iff` is exact: after the commit, whatever other requests follow, a
recovered attempt restores the observation if and only if the output model left the reference as the
provider gave it and the log holds no other result of the step.
-/

set_option autoImplicit false
set_option relaxedAutoImplicit false

namespace AgentRuntime.Execution

open Library Store

/-! ### Output models -/

/-- An output model as a schema: it dumps dictionaries, it does not see the order of keys, and it
leaves what it dumped as it is. -/
structure Normalizes (outputModel : Payload → Payload → Option Payload) : Prop where
  proper : ∀ {arguments raw dumped : Payload}, outputModel arguments raw = some dumped →
    (Json.obj dumped).Proper
  unordered : ∀ {arguments raw other : Payload}, canonicalJson raw = canonicalJson other →
    (outputModel arguments raw).map canonicalJson = (outputModel arguments other).map canonicalJson
  idempotent : ∀ {arguments raw dumped : Payload}, outputModel arguments raw = some dumped →
    (outputModel arguments dumped).map canonicalJson = some (canonicalJson dumped)

/-- The result as `_dispatch_external_action` completes it before it validates. -/
def ProviderResult.completed (answer : ProviderResult) : Payload :=
  answer.result.set "provider_reference" (.str answer.providerReference)

/-- The output model leaves the provider's reference as the provider gave it. -/
def KeepsReference (outputModel : Payload → Payload → Option Payload) (arguments : Payload)
    (answer : ProviderResult) : Prop :=
  ∀ dumped, outputModel arguments answer.completed = some dumped →
    dumped.getD "provider_reference" = .str answer.providerReference

/-- A result as it is read back from the ledger. -/
def readBackResult (result : Payload) : Payload := Json.sortKeysFields result

theorem canonicalJson_readBackResult (result : Payload) :
    canonicalJson (readBackResult result) = canonicalJson result :=
  Json.sortKeys_sortKeys (.obj result)

theorem sortKeys_eq_str {value : Json} {text : String} :
    value.sortKeys = .str text ↔ value = .str text := by
  cases value <;> simp [Json.sortKeys]

theorem getD_readBackResult {result : Payload} (hproper : (Json.obj result).Proper)
    (key text : String) :
    (readBackResult result).getD key = .str text ↔ result.getD key = .str text := by
  unfold Payload.getD Payload.get? readBackResult
  rw [Json.lookup_sortKeysFields hproper.1]
  cases Json.lookup result key with
  | none => rfl
  | some value => exact sortKeys_eq_str

/-- The schema accepts its own dump again, in any order of keys, and changes nothing. -/
theorem Normalizes.accepts {outputModel : Payload → Payload → Option Payload}
    (hnormalizes : Normalizes outputModel) {arguments raw dumped : Payload}
    (hdumped : outputModel arguments raw = some dumped) :
    ∃ again, outputModel arguments (readBackResult dumped) = some again ∧
      (Json.obj again).pyEq (.obj (readBackResult dumped)) = true := by
  have hagain : (outputModel arguments (readBackResult dumped)).map canonicalJson =
      some (canonicalJson dumped) :=
    (hnormalizes.unordered (canonicalJson_readBackResult dumped)).trans
      (hnormalizes.idempotent hdumped)
  obtain ⟨again, hdump, hcanonical⟩ := Option.map_eq_some_iff.mp hagain
  refine ⟨again, hdump, ?_⟩
  have hself := Json.pyEq_sortKeys (.obj again) (hnormalizes.proper hdump)
  have hsorted : (Json.obj again).sortKeys = .obj (readBackResult dumped) := hcanonical
  rwa [hsorted] at hself

/-! ### The recorded result -/

/-- The text of the one check that acceptance does not imply. -/
def untrustedReference : String := "External action result has an untrusted provider reference."

theorem restorableResult_of_recorded {db : Database} {invocation : Invocation}
    {outputModel : Payload → Payload → Option Payload} {raw trusted : Payload}
    {key : String × String} {reference : String} {action : ExternalActionRecord}
    {step : ToolCallRecord} (hmodel : invocation.spec.outputModel = some outputModel)
    (hnormalizes : Normalizes outputModel)
    (hdumped : outputModel invocation.normalizedArguments raw = some trusted)
    (hsafe : (Json.obj trusted).containsText invocation.idempotencyKey = false)
    (hrecorded : RecordedSuccess db key reference (canonicalJson trusted)
      action.toExternalActionRow step.toToolCallRow) :
    ExternalActionCoordinator.restorableResult invocation step action =
      if trusted.getD "provider_reference" = .str reference then .ok (readBackResult trusted)
      else .error ("invalid_planner_decision", untrustedReference) := by
  obtain ⟨again, hagain, hequal⟩ := hnormalizes.accepts hdumped
  have houtcome : ¬ (step.status ≠ .completed ∨ action.status ≠ .succeeded ∨
      (action.providerReference.getD "").isEmpty ∨ action.errorCode.isSome) := by
    simp [hrecorded.completed, hrecorded.status, hrecorded.providerReference, hrecorded.named,
      hrecorded.errorCode]
  have hdecoded : decodeToolResult step = .ok (readBackResult trusted) := by
    have hresult : step.resultJson = some (.obj (readBackResult trusted)) := hrecorded.stepResult
    unfold decodeToolResult
    rw [hresult]
  have hsecret : (Json.obj (readBackResult trusted)).containsText invocation.idempotencyKey =
      false := (Json.containsText_sortKeys (.obj trusted) _).trans hsafe
  have hstored : ¬ action.resultJson ≠ some (canonicalJson (readBackResult trusted)) := by
    rw [canonicalJson_readBackResult]
    exact not_not.mpr hrecorded.resultJson
  unfold ExternalActionCoordinator.restorableResult
  dsimp only
  rw [if_neg houtcome, hdecoded]
  dsimp only
  rw [hmodel]
  dsimp only
  rw [hagain]
  dsimp only
  rw [hequal, hsecret, if_neg (by simp), if_neg (by simp), if_neg hstored]
  have hreference : (Payload.getD (readBackResult trusted) "provider_reference").eqOptionText
      action.providerReference = true ↔ trusted.getD "provider_reference" = .str reference := by
    rw [hrecorded.providerReference, ← getD_readBackResult (hnormalizes.proper hdumped)]
    exact beq_iff_eq
  by_cases hkept : trusted.getD "provider_reference" = .str reference
  · rw [if_pos hkept]
    exact if_neg (by simp [hreference.mpr hkept])
  · rw [if_neg hkept]
    exact if_pos (by simpa using fun hequal ↦ hkept (hreference.mp hequal))

/-! ### What never returns -/

section Failing

variable (coordinator : ExternalActionCoordinator) (context : RuntimeExecutionContext)

theorem neverReturns_fail {α : Type} (code detail : String) :
    (coordinator.fail context code detail : Plain α).NeverReturns :=
  Program.neverReturns_bind fun value _ ↦ value.elim

theorem neverReturns_failKeepingCode {α : Type} (code detail : String) :
    (coordinator.failKeepingCode context code detail : Plain α).NeverReturns := by
  unfold ExternalActionCoordinator.failKeepingCode
  refine (neverReturns_fail coordinator context code detail).handle fun failure ↦ ?_
  split_ifs
  · exact Program.neverReturns_raise failure
  · exact Program.neverReturns_raise _

theorem neverReturns_raiseExternalOutcomeUnknown {α : Type} (step : ToolCallRecord)
    (dispatchToken attemptToken : String) (finalizer : Plain ExternalActionRow) :
    (coordinator.raiseExternalOutcomeUnknown context step dispatchToken attemptToken finalizer :
      Plain α).NeverReturns := by
  have hend : ((discard <| Program.attempt (do
        mirrorEvidence context
        recordToolFailure context step.stepId step.toolName "external_action_outcome_unknown") :
          Plain Unit).bind fun _ ↦ (coordinator.failKeepingCode context
            "external_action_outcome_unknown" "External action outcome could not be durably proven."
              : Plain α)).NeverReturns :=
    Program.neverReturns_bind fun _ _ ↦ neverReturns_failKeepingCode coordinator context _ _
  unfold ExternalActionCoordinator.raiseExternalOutcomeUnknown
  refine Program.neverReturns_bind fun result _ ↦ ?_
  cases result with
  | ok row => exact hend
  | error failure =>
    dsimp only
    split_ifs
    · exact (Program.neverReturns_raise failure).bind _
    · refine Program.neverReturns_bind fun committed _ ↦ ?_
      split_ifs
      · exact hend
      · exact (Program.neverReturns_raise _).bind _

theorem neverReturns_raiseExternalTerminalFailure {α : Type} (step : ToolCallRecord)
    (errorCode : String) :
    (coordinator.raiseExternalTerminalFailure context step errorCode : Plain α).NeverReturns := by
  unfold ExternalActionCoordinator.raiseExternalTerminalFailure
  refine Program.neverReturns_bind fun result _ ↦ ?_
  cases result with
  | ok _ => exact neverReturns_failKeepingCode coordinator context _ _
  | error _ =>
    exact Program.neverReturns_bind fun _ _ ↦ neverReturns_failKeepingCode coordinator context _ _

theorem neverReturns_recordDefinitiveFailure {α : Type} (step : ToolCallRecord)
    (action : ExternalActionRecord) (dispatchToken attemptToken : String) :
    (coordinator.recordDefinitiveFailure context step action dispatchToken attemptToken :
      Runtime α).NeverReturns := by
  have hend : ((coordinator.raiseExternalTerminalFailure context step "external_action_failed" :
      Plain α).widen Op.runtime_of_plain).NeverReturns :=
    (neverReturns_raiseExternalTerminalFailure coordinator context step _).widen _
  unfold ExternalActionCoordinator.recordDefinitiveFailure
  refine Program.neverReturns_bind fun result _ ↦ ?_
  cases result with
  | ok _ => exact hend
  | error _ =>
    refine Program.neverReturns_bind fun committed _ ↦ ?_
    split_ifs
    · exact hend
    · exact Program.neverReturns_bind fun _ _ ↦ hend

/-- A success whose evidence cannot be completed ends in an error of its own. -/
theorem neverReturns_failRestoredStep {α : Type} (action : Option ExternalActionRecord)
    (code detail : String) :
    (coordinator.failRestoredStep context action code detail : Plain α).NeverReturns := by
  unfold ExternalActionCoordinator.failRestoredStep
  have hend := neverReturns_fail coordinator context code detail (α := α)
  cases action with
  | none => exact hend
  | some action =>
    dsimp only
    split_ifs
    · exact Program.neverReturns_bind fun _ _ ↦ hend
    · exact hend

end Failing

/-! ### The commit of a dispatch -/

/-- One operation of an attempt among other callers of the stores: their requests may come first,
the answer of a store may be lost, and planners, tools and providers answer anything. -/
def amongOthers (hasher : Hasher) (db : Database) :
    (op : Op) → Except Failure op.Answer → Database → Prop
  | .store call, answer, after =>
    ∃ others, Performs hasher ((storeMachine hasher).run db others) call answer after
  | _, _, after => after = db

/-- A store operation leaves what a request leaves, or nothing. -/
theorem performs_run {hasher : Hasher} {db after : Database} {call : Call}
    {answer : Except Failure call.Reply} (hperforms : Performs hasher db call answer after) :
    ∃ requests, after = (storeMachine hasher).run db requests := by
  have hcommitted {reading : Reading} {reply : call.Reply}
      (hperform : call.perform hasher db reading = .ok (reply, after)) :
      ∃ requests, after = (storeMachine hasher).run db requests := by
    refine ⟨[⟨reading, call⟩], ?_⟩
    change after = Request.apply hasher db ⟨reading, call⟩
    rw [apply_of_ok hperform]
  cases hperforms with
  | unreached | raised => exact ⟨[], rfl⟩
  | lost _ hperform => exact hcommitted hperform
  | answered hperform => exact hcommitted hperform

/-- The states an attempt goes through are those the stores go through. -/
theorem amongOthers_run {hasher : Hasher} {db after : Database} {op : Op}
    {answer : Except Failure op.Answer} (hstep : amongOthers hasher db op answer after) :
    ∃ requests, after = (storeMachine hasher).run db requests := by
  cases op with
  | store call =>
    obtain ⟨others, hperforms⟩ := hstep
    obtain ⟨requests, rfl⟩ := performs_run hperforms
    exact ⟨others ++ requests, ((storeMachine hasher).run_append _ _ _).symm⟩
  | decide | executeTool | evaluateFinish | enterProvider | awaitProvider | leaseLost
  | runtimeEnded | unfollowed => exact ⟨[], hstep⟩

/-- The arguments of `finalize_external_action_succeeded`. -/
structure SuccessCommit where
  runId : String
  stepId : String
  dispatchToken : String
  toolAttemptToken : String
  resultJson : Json
  providerReference : String
  errorCode : Option String

/-- The store operation that commits a success. -/
def SuccessCommit.call (commit : SuccessCommit) : WorkflowCall :=
  .finalizeExternalActionSucceeded commit.runId commit.stepId commit.dispatchToken
    commit.toolAttemptToken commit.resultJson commit.providerReference commit.errorCode

/-- The program comes to commit a success, and would go on with `rest`. -/
def ReachesCommit {scope : Op → Bool} {α : Type} (hasher : Hasher) (commit : SuccessCommit)
    (rest : Except Failure ExternalActionRow → Program Op.Answer Failure scope α)
    (last : Database) : Program Op.Answer Failure scope α → Database → Prop :=
  Program.Reaches (amongOthers hasher) (.store (.workflow commit.call)) rest last

/-- Evidence and reads commit nothing. -/
theorem not_reachesCommit_quiet {α : Type} {hasher : Hasher} {commit : SuccessCommit}
    {rest : Except Failure ExternalActionRow → Quiet α} {last db : Database} {program : Quiet α}
    (hreaches : ReachesCommit hasher commit rest last program db) : False := by
  have hscope := Program.Reaches.scope_eq hreaches
  cases hscope

section Commit

variable {hasher : Hasher} {coordinator : ExternalActionCoordinator} {commit : SuccessCommit}
  {invocation : Invocation} {step : ToolCallRecord} {attemptToken : String} {last db : Database}
  {row : ExternalActionRow} {observation : ToolObservation}

/-- What the coordinator returns for an accepted result. -/
def acceptedObservation (invocation : Invocation) (step : ToolCallRecord) (trusted : Payload) :
    ToolObservation :=
  ⟨step.stepId, step.toolName, invocation.normalizedArguments, trusted, false⟩

/-- The commit of an accepted result, and what the coordinator would return after it. -/
structure Accepts (invocation : Invocation) (step : ToolCallRecord) (commit : SuccessCommit)
    (trusted : Payload) (reference : String) (observation : ToolObservation) : Prop where
  runId : commit.runId = invocation.context.runId
  stepId : commit.stepId = step.stepId
  resultJson : commit.resultJson = canonicalJson trusted
  providerReference : commit.providerReference = reference
  observation : observation = acceptedObservation invocation step trusted

theorem accepts_of_recordTrustedResult {action : ExternalActionRecord}
    {dispatchToken reference : String} {trusted : Payload}
    {rest : Except Failure ExternalActionRow → Plain ToolObservation}
    (hreaches : ReachesCommit hasher commit rest last
      (coordinator.recordTrustedResult invocation step action dispatchToken attemptToken trusted
        reference) db)
    (hreturns : (rest (.ok row)).Returns observation) :
    Accepts invocation step commit trusted reference observation := by
  have hevidence {middle : Database}
      (hlater : ReachesCommit hasher commit rest last
        ((coordinator.recordExternalSuccessEvidence invocation.context step trusted :
          Plain Unit).bind fun _ ↦ .done (acceptedObservation invocation step trusted)) middle) :
      False := by
    rcases Program.reaches_bind hlater with ⟨first, hfirst, -⟩ | ⟨_, _, -, hdone⟩
    · obtain ⟨inner, hinner, -⟩ := Program.reaches_widen hfirst
      exact not_reachesCommit_quiet hinner
    · cases hdone
  unfold ExternalActionCoordinator.recordTrustedResult at hreaches
  simp only [Program.bind_eq_bind, Program.pure_eq_done] at hreaches
  rcases Program.reaches_attempt hreaches with ⟨first, hfirst, hrest⟩ | ⟨result, middle, -, hlater⟩
  · -- The commit itself: an acknowledged success goes on to its evidence.
    obtain ⟨runId, stepId, dispatch, attempt, json, provided, code⟩ := commit
    cases hfirst with
    | here =>
      subst hrest
      have hafter : ((coordinator.recordExternalSuccessEvidence invocation.context step trusted :
          Plain Unit).bind fun _ ↦ .done (acceptedObservation invocation step trusted)).Returns
            observation := hreturns
      obtain ⟨_, -, hdone⟩ := Program.returns_bind hafter
      exact ⟨rfl, rfl, rfl, rfl, hdone.symm⟩
    | later answer _ hnext => cases answer <;> cases hnext
  · cases result with
    | ok _ => exact (hevidence hlater).elim
    | error _ =>
      rcases Program.reaches_bind hlater with ⟨first, hfirst, -⟩ | ⟨committed, _, -, hcommitted⟩
      · obtain ⟨inner, hinner, -⟩ := Program.reaches_widen hfirst
        exact (not_reachesCommit_quiet hinner).elim
      · cases committed with
        | true => exact (hevidence hcommitted).elim
        | false =>
          have hnever := (neverReturns_raiseExternalOutcomeUnknown coordinator invocation.context
            step dispatchToken attemptToken (WorkflowStore.finalizeExternalActionOutcomeUnknown
              invocation.context.runId step.stepId dispatchToken attemptToken
              "external_action_outcome_unknown") (α := Unit)).bind fun _ ↦
                (coordinator.recordExternalSuccessEvidence invocation.context step trusted :
                  Plain Unit).bind fun _ ↦ .done (acceptedObservation invocation step trusted)
          exact (Program.Reaches.neverReturns hcommitted hnever _ _ hreturns).elim

/-- Claiming another dispatch commits no success, unless it ends in an error anyway. -/
theorem not_reachesCommit_retry {action : ExternalActionRecord} {dispatchToken : String}
    {found : Option (ExternalActionRecord × String)}
    {rest : Except Failure ExternalActionRow → Runtime (Option (ExternalActionRecord × String))}
    (hreaches : ReachesCommit hasher commit rest last
      (coordinator.retryAfterAmbiguousResult invocation step action dispatchToken attemptToken) db)
    (hreturns : (rest (.ok row)).Returns found) : False := by
  have hfail {code detail : String} {middle : Database}
      (hlater : ReachesCommit hasher commit rest last
        ((coordinator.fail invocation.context code detail : Plain _).widen Op.runtime_of_plain)
          middle) : False :=
    Program.Reaches.neverReturns hlater
      ((neverReturns_fail coordinator invocation.context code detail).widen _) _ _ hreturns
  unfold ExternalActionCoordinator.retryAfterAmbiguousResult at hreaches
  simp only [Program.bind_eq_bind, Program.pure_eq_done] at hreaches
  split_ifs at hreaches
  · cases hreaches
  · rcases Program.reaches_bind hreaches with ⟨first, hfirst, -⟩ | ⟨retry, _, -, hlater⟩
    · cases hfirst with
      | later answer _ hnext => cases answer <;> cases hnext
    · rcases Program.reaches_bind hlater with ⟨first, hfirst, -⟩ | ⟨_, _, -, hend⟩
      · obtain ⟨inner, hinner, -⟩ := Program.reaches_widen hfirst
        obtain ⟨quiet, hquiet, -⟩ := Program.reaches_widen hinner
        exact not_reachesCommit_quiet hquiet
      · split at hend
        · cases hend
        · exact hfail hend
        · cases hend
        · exact hfail hend

/-- Calling the provider commits nothing. -/
theorem not_reachesCommit_dispatchRequest {registry : ProviderRegistry} {providerName : String}
    {mode : ExternalActionRetryMode} {dispatch : Nat} {request : ExternalActionRequest}
    {rest : Except Failure ExternalActionRow → Runtime ProviderResult}
    (hreaches : ReachesCommit hasher commit rest last
      (dispatchRequest registry providerName mode dispatch request) db) : False := by
  unfold dispatchRequest at hreaches
  simp only [Program.bind_eq_bind, Program.pure_eq_done, Program.throw_eq_raise,
    Program.discard_eq_bind] at hreaches
  split at hreaches
  · cases hreaches
  · split_ifs at hreaches
    · cases hreaches
    · rcases Program.reaches_attempt hreaches with ⟨first, hfirst, -⟩ | ⟨result, _, -, hlater⟩
      · rcases Program.reaches_bind hfirst with ⟨_, hentered, -⟩ | ⟨_, _, -, hawaited⟩
        · rcases Program.reaches_bind hentered with ⟨_, hasked, -⟩ | ⟨_, _, -, hdone⟩
          · cases hasked with
            | later answer _ hnext => cases answer <;> cases hnext
          · cases hdone
        · cases hawaited with
          | later answer _ hnext => cases answer <;> cases hnext
      · split at hlater
        · cases hlater
        · cases hlater
        · split at hlater <;> cases hlater

/-- A dispatch commits a success only for a provider's answer that it accepts. -/
theorem accepts_of_dispatch {registry : ProviderRegistry} {providerName : String}
    {outputModel : Payload → Payload → Option Payload}
    (hmodel : invocation.spec.outputModel = some outputModel) (rounds : Nat)
    {action : ExternalActionRecord} {dispatchToken : String}
    {rest : Except Failure ExternalActionRow → Runtime ToolObservation}
    (hreaches : ReachesCommit hasher commit rest last
      (coordinator.dispatchExternalAction registry providerName invocation step attemptToken rounds
        action dispatchToken) db)
    (hreturns : (rest (.ok row)).Returns observation) :
    ∃ answer trusted, ExternalActionCoordinator.trustedResult invocation outputModel answer =
        some trusted ∧
      Accepts invocation step commit trusted answer.providerReference observation := by
  -- Along the rounds: a round ends in the commit, or in another round under a new token.
  induction rounds generalizing action dispatchToken db rest with
  | zero =>
    have hnever : ((Program.ask Op.unfollowed Op.runtime_unfollowed : Runtime Empty).bind
        (Empty.elim : Empty → Runtime ToolObservation)).NeverReturns :=
      Program.neverReturns_bind fun value _ ↦ value.elim
    exact (Program.Reaches.neverReturns hreaches hnever _ _ hreturns).elim
  | succ rounds ih =>
    have hretry {middle : Database}
        (hlater : ReachesCommit hasher commit rest last
          (coordinator.retryOrUnknown invocation step attemptToken
            (coordinator.dispatchExternalAction registry providerName invocation step attemptToken
              rounds) action dispatchToken) middle) :
        ∃ answer trusted, ExternalActionCoordinator.trustedResult invocation outputModel answer =
            some trusted ∧
          Accepts invocation step commit trusted answer.providerReference observation := by
      rcases Program.reaches_bind hlater with ⟨first, hfirst, rfl⟩ | ⟨found, _, -, hfound⟩
      · obtain ⟨value, hvalue, -⟩ := Program.returns_bind hreturns
        exact (not_reachesCommit_retry hfirst hvalue).elim
      · cases found with
        | none =>
          have hnever := (neverReturns_raiseExternalOutcomeUnknown coordinator invocation.context
            step dispatchToken attemptToken (WorkflowStore.finalizeExternalActionOutcomeUnknown
              invocation.context.runId step.stepId dispatchToken attemptToken
              "external_action_outcome_unknown") (α := ToolObservation)).widen Op.runtime_of_plain
          exact (Program.Reaches.neverReturns hfound hnever _ _ hreturns).elim
        | some pair => exact ih hfound hreturns
    unfold ExternalActionCoordinator.dispatchExternalAction at hreaches
    simp only [Program.bind_eq_bind] at hreaches
    split_ifs at hreaches
    · have hnever := (neverReturns_raiseExternalOutcomeUnknown coordinator invocation.context
        step dispatchToken attemptToken (WorkflowStore.finalizeExternalActionReconciliationUnknown
          invocation.context.runId step.stepId dispatchToken attemptToken
          "external_action_outcome_unknown" invocation.context.leaseToken)
          (α := ToolObservation)).widen Op.runtime_of_plain
      exact (Program.Reaches.neverReturns hreaches hnever _ _ hreturns).elim
    · rcases Program.reaches_bind hreaches with ⟨first, hfirst, -⟩ | ⟨request, _, -, hcalled⟩
      · cases hrequest : externalActionRequest action <;> rw [hrequest] at hfirst <;> cases hfirst
      · rcases Program.reaches_attempt hcalled with ⟨first, hfirst, -⟩ | ⟨result, _, -, hanswered⟩
        · exact (not_reachesCommit_dispatchRequest hfirst).elim
        · split at hanswered
          · have hnever := neverReturns_recordDefinitiveFailure coordinator invocation.context step
              action dispatchToken attemptToken (α := ToolObservation)
            exact (Program.Reaches.neverReturns hanswered hnever _ _ hreturns).elim
          · exact hretry hanswered
          · cases hanswered
          · next answer found hfound =>
            obtain rfl := Option.some.inj (hmodel.symm.trans hfound)
            split at hanswered
            · next trusted htrusted =>
              obtain ⟨first, hfirst, rfl⟩ := Program.reaches_widen hanswered
              exact ⟨answer, trusted, htrusted,
                accepts_of_recordTrustedResult hfirst (Program.returns_widen hreturns)⟩
            · exact hretry hanswered

end Commit

/-! ### The binding after the crash -/

/-- What `execute` validated before it dispatched: the action is bound to the call, and the ledger
holds it with its step. -/
structure ReadyToDispatch (coordinator : ExternalActionCoordinator) (invocation : Invocation)
    (step : ToolCallRecord) (action : ExternalActionRecord) (db : Database) : Prop where
  binding : ∃ providerIdentity,
    coordinator.bindingMatches invocation step action providerIdentity = true
  findAction : ∃ row, db.externalActions.find (invocation.context.runId, step.stepId) = some row ∧
    SameAction action.toExternalActionRow row
  findStep : ∃ row, db.toolCalls.find (invocation.context.runId, step.stepId) = some row ∧
    SameStep step.toToolCallRow row

/-- The invocation in the context of another attempt of the Run. -/
def Invocation.recoveredIn (invocation : Invocation) (context : RuntimeExecutionContext) :
    Invocation :=
  { invocation with context := context }

/-- The context of another attempt of the same Run under the same authority. -/
structure SameRun (context recovered : RuntimeExecutionContext) : Prop where
  runId : recovered.runId = context.runId
  authority : recovered.authority = context.authority

section Restore

variable {hasher : Hasher} {coordinator : ExternalActionCoordinator} {invocation : Invocation}
  {recovered : RuntimeExecutionContext} {step : ToolCallRecord} {action : ExternalActionRecord}
  {db : Database}

theorem ReadyToDispatch.run (requests : List Request)
    (hready : ReadyToDispatch coordinator invocation step action db) :
    ReadyToDispatch coordinator invocation step action
      ((storeMachine hasher).run db requests) where
  binding := hready.binding
  findAction := by
    obtain ⟨row, hrow, hsame⟩ := hready.findAction
    obtain ⟨next, hnext, hlater⟩ := sameAction_run hasher requests hrow
    exact ⟨next, hnext, hsame.trans hlater⟩
  findStep := by
    obtain ⟨row, hrow, hsame⟩ := hready.findStep
    obtain ⟨next, hnext, hlater⟩ := sameStep_run hasher requests hrow
    exact ⟨next, hnext, hsame.trans hlater⟩

/-- The rows of the ledger are bound to the call for every attempt of the Run. -/
theorem bindingMatches_recovered {row : ExternalActionRow} {stepRow : ToolCallRow}
    {providerIdentity : Option String} (hsame : SameRun invocation.context recovered)
    (hbinding : coordinator.bindingMatches invocation step action providerIdentity = true)
    (haction : SameAction action.toExternalActionRow row)
    (hstep : SameStep step.toToolCallRow stepRow) :
    coordinator.bindingMatches (invocation.recoveredIn recovered)
      (.of recovered.runId step.stepId stepRow) (.of recovered.runId step.stepId row) none =
        true := by
  have hidentity := haction.identity
  simp only [externalActionIdentity, ExternalActionIdentity.mk.injEq] at hidentity
  obtain ⟨htenant, hsubject, hworkflow, htool, hprovider, -, hinput, harguments, hmode, hkey⟩ :=
    hidentity
  have hactionId := haction.actionId
  have hstepTool := hstep.toolName
  have hstepInput := hstep.inputHash
  simp only [ExternalActionCoordinator.bindingMatches, Bool.and_eq_true, decide_eq_true_eq]
    at hbinding ⊢
  obtain ⟨⟨-, -, htenant', hsubject', hworkflow', htool', hprovider', -, hinput', harguments',
    hmode', hkey', -, hstepInput'⟩, hbounded⟩ := hbinding
  simp only [ExternalActionRecord.of, ToolCallRecord.of, Invocation.recoveredIn, hsame.authority,
    htenant, hsubject, hworkflow, htool, hprovider, hinput, harguments, hmode, hkey, hactionId,
    hstepTool, hstepInput]
  exact ⟨⟨trivial, trivial, htenant', hsubject', hworkflow', htool', hprovider', trivial, hinput',
    harguments', hmode', hkey', trivial, hstepInput'⟩, hbounded⟩

/-- The binding check of `restore_success` passes. -/
theorem validate_recorded {row : ExternalActionRow} {reference : String} {result : Json}
    (hdispatched : DispatchedOnce db)
    (hrecorded : RecordedSuccess db (invocation.context.runId, step.stepId) reference result row
      step.toToolCallRow)
    (hbinding : coordinator.bindingMatches invocation step
      (.of invocation.context.runId step.stepId row) none = true) :
    coordinator.validateExternalActionBinding invocation step
      (.of invocation.context.runId step.stepId row) none = .done () := by
  have hopened := hdispatched _ row hrecorded.findAction (by rw [hrecorded.status]; simp)
  have hvalid : ExternalActionCoordinator.dispatchStateValid
      (.of invocation.context.runId step.stepId row) = true := by
    unfold ExternalActionCoordinator.dispatchStateValid
    have hstatus : (ExternalActionRecord.of invocation.context.runId step.stepId row).status ≠
        .prepared := by
      change row.status ≠ .prepared
      rw [hrecorded.status]
      simp
    rw [if_neg hstatus, Bool.and_eq_true, decide_eq_true_eq]
    exact hopened
  unfold ExternalActionCoordinator.validateExternalActionBinding
  simp [hbinding, hvalid]

end Restore

/-! ### Evidence without failures -/

/-- The program raises nothing of its own: without failures of the stores it returns. -/
def Returning {scope : Op → Bool} {α : Type} (hasher : Hasher)
    (program : Program Op.Answer Failure scope α) : Prop :=
  ∀ db result after, program.Runs (answersAlone hasher) db result after →
    ∃ value, result = .ok value

section Evidence

variable {hasher : Hasher} {scope : Op → Bool} {α β : Type}

theorem Returning.bind {program : Program Op.Answer Failure scope α}
    {rest : α → Program Op.Answer Failure scope β} (hfirst : Returning hasher program)
    (hrest : ∀ value, Returning hasher (rest value)) : Returning hasher (program.bind rest) := by
  intro db result after hruns
  rcases Program.runs_bind.mp hruns with ⟨error, herror, -⟩ | ⟨value, middle, -, hlater⟩
  · obtain ⟨value, hvalue⟩ := hfirst _ _ _ herror
    cases hvalue
  · exact hrest value _ _ _ hlater

theorem returning_done (value : α) :
    Returning hasher (.done value : Program Op.Answer Failure scope α) :=
  fun _ _ _ hruns ↦ ⟨value, hruns.1⟩

theorem returning_store (call : Call) (hscope : scope (.store call) = true) :
    Returning hasher (Program.ask (Op.store call) hscope :
      Program Op.Answer Failure scope call.Reply) := by
  intro db result after hruns
  have hstep : answersAlone hasher db (.store call) result after := Program.runs_ask.mp hruns
  obtain ⟨reading, reply, hreply, -⟩ := hstep
  exact ⟨reply, hreply⟩

theorem returning_ensureRunEvidence (runId eventType : String) (payload : Payload)
    (token : Option String) :
    Returning hasher (ensureRunEvidence runId eventType payload token) := by
  refine (returning_store _ rfl).bind fun events ↦ ?_
  dsimp only
  split_ifs
  · exact returning_done ()
  · exact (returning_store _ rfl).bind fun _ ↦ returning_done ()

theorem returning_mirrorEvents (runId : String) (token : Option String) (events : List EventRow)
    (index : Option (List (String × String))) :
    Returning hasher (mirrorEvents runId token events index) := by
  induction events generalizing index with
  | nil => exact returning_done ()
  | cons event rest ih =>
    by_cases hcarries : carriesEvidence event = true
    · cases hid : Store.evidenceId event.payload with
      | none =>
        rw [mirrorEvents_slow hcarries hid]
        exact (returning_ensureRunEvidence _ _ _ _).bind fun _ ↦ ih index
      | some id =>
        rw [mirrorEvents_cons (Bool.and_eq_true_iff.mp hcarries).1 hid]
        have hindex : Returning hasher (mirrorIndex runId index) := by
          cases index with
          | some keys => exact returning_done keys
          | none => exact (returning_store _ rfl).bind fun _ ↦ returning_done _
        refine hindex.bind fun keys ↦ ?_
        split_ifs
        · exact ih (some keys)
        · exact (returning_store _ rfl).bind fun _ ↦ ih _
    · rw [mirrorEvents_skip hcarries]
      exact ih index

theorem returning_mirrorEvidence (context : RuntimeExecutionContext) :
    Returning hasher (mirrorEvidence context) :=
  (returning_store _ rfl).bind fun events ↦ returning_mirrorEvents _ _ events none

/-- The first event of a type with an id in the workflow log. -/
def loggedEvidence (db : Database) (runId eventType evidenceId : String) : Option Payload :=
  ((listEvents db runId 0).find? fun event ↦
    event.eventType == eventType && isEvidence event.payload (.str evidenceId)).map
      EventRow.payload

/-- The log has no evidence with this id, or has this very payload. -/
def EvidenceAgrees (db : Database) (runId eventType evidenceId : String) (fields : Payload) :
    Prop :=
  ∀ existing, loggedEvidence db runId eventType evidenceId = some existing →
    (Json.obj existing).pyEq (.obj (("evidence_id", .str evidenceId) :: fields)) = true

theorem runs_workflowEvidence {db after : Database} {runId eventType evidenceId : String}
    {result : Except Failure (Option Payload)}
    (hruns : (workflowEvidence runId eventType evidenceId).Runs (answersAlone hasher) db result
      after) :
    result = .ok (loggedEvidence db runId eventType evidenceId) ∧ after = db := by
  rcases Program.runs_bind.mp hruns with ⟨error, herror, -⟩ | ⟨events, middle, hread, hdone⟩
  · have hreturning : Returning hasher (WorkflowStore.listEvents runId) := returning_store _ rfl
    obtain ⟨value, hvalue⟩ := hreturning _ _ _ herror
    cases hvalue
  · have hstep : answersAlone hasher db (.store (.workflow (.listEvents runId 0))) (.ok events)
        middle := Program.runs_ask.mp hread
    obtain ⟨reading, reply, hreply, hperform⟩ := hstep
    have hlisted : (Except.ok (listEvents db runId 0, db) :
        Except StoreError (List EventRow × Database)) = .ok (reply, middle) := hperform
    obtain ⟨rfl, rfl⟩ := Prod.mk.inj (Except.ok.inj hlisted)
    obtain rfl := Except.ok.inj hreply
    exact hdone

/-- `record` returns when it finds nothing else under its id, and changes nothing otherwise. -/
theorem runs_recordEvidence {db after : Database} {runId eventType evidenceId : String}
    {fields : Payload} {token : Option String} {result : Except Failure Unit}
    (hruns : (recordEvidence runId eventType evidenceId fields token).Runs (answersAlone hasher) db
      result after) :
    (EvidenceAgrees db runId eventType evidenceId fields → ∃ value, result = .ok value) ∧
      (¬ EvidenceAgrees db runId eventType evidenceId fields →
        (∃ error, result = .error error) ∧ after = db) := by
  rcases Program.runs_bind.mp hruns with ⟨error, herror, -⟩ | ⟨found, middle, hfound, hlater⟩
  · cases (runs_workflowEvidence herror).1
  obtain ⟨hvalue, rfl⟩ := runs_workflowEvidence hfound
  cases hlogged : loggedEvidence middle runId eventType evidenceId with
  | none =>
    have hagrees : EvidenceAgrees middle runId eventType evidenceId fields := by
      intro existing hexisting
      rw [hlogged] at hexisting
      cases hexisting
    obtain rfl := Except.ok.inj (hvalue.trans (congrArg Except.ok hlogged))
    have hreturning : Returning hasher
        (((WorkflowStore.appendEvent runId eventType (("evidence_id", .str evidenceId) :: fields)
          token).bind fun _ ↦ (.done () : Quiet Unit)).bind fun _ ↦
            ensureRunEvidence runId eventType
            (("evidence_id", .str evidenceId) :: fields) token) :=
      ((returning_store _ rfl).bind fun _ ↦ returning_done ()).bind fun _ ↦
        returning_ensureRunEvidence _ _ _ _
    exact ⟨fun _ ↦ hreturning _ _ _ hlater, fun hnot ↦ absurd hagrees hnot⟩
  | some existing =>
    obtain rfl := Except.ok.inj (hvalue.trans (congrArg Except.ok hlogged))
    have hagrees : EvidenceAgrees middle runId eventType evidenceId fields ↔
        (Json.obj existing).pyEq (.obj (("evidence_id", .str evidenceId) :: fields)) = true := by
      unfold EvidenceAgrees
      rw [hlogged]
      exact ⟨fun hall ↦ hall existing rfl, fun hequal other hother ↦
        Option.some.inj hother ▸ hequal⟩
    dsimp only at hlater
    by_cases hequal : (Json.obj existing).pyEq
        (.obj (("evidence_id", .str evidenceId) :: fields)) = true
    · rw [if_pos hequal] at hlater
      exact ⟨fun _ ↦ returning_ensureRunEvidence _ _ _ _ _ _ _ hlater,
        fun hnot ↦ absurd (hagrees.mpr hequal) hnot⟩
    · rw [if_neg hequal] at hlater
      exact ⟨fun hagree ↦ absurd (hagrees.mp hagree) hequal,
        fun _ ↦ ⟨⟨_, hlater.1⟩, hlater.2⟩⟩

/-- The evidence of a completed tool step. -/
def successFields (step : ToolCallRecord) (result : Payload) : Payload :=
  [("step_id", .str step.stepId), ("tool_name", .str step.toolName),
    ("status", .str "completed"), ("result", .obj result), ("error_code", .null)]

/-- The log holds no other result of the step. -/
def ResultAgrees (db : Database) (runId : String) (step : ToolCallRecord) (result : Payload) :
    Prop :=
  EvidenceAgrees db runId "tool.result" ("tool-result:" ++ step.stepId) (successFields step result)

theorem resultAgrees_of_log {db after : Database} {runId : String} {step : ToolCallRecord}
    {result : Payload} (hlog : after.workflowEvents = db.workflowEvents) :
    ResultAgrees after runId step result ↔ ResultAgrees db runId step result := by
  unfold ResultAgrees EvidenceAgrees loggedEvidence listEvents
  rw [hlog]

variable {coordinator : ExternalActionCoordinator} {context : RuntimeExecutionContext}
  {step : ToolCallRecord} {payload : Payload} {db after : Database}

theorem runs_successEvidence {result : Except Failure Unit}
    (hruns : (ExternalActionCoordinator.successEvidence context step payload).Runs
      (answersAlone hasher) db result after) :
    (ResultAgrees db context.runId step payload → ∃ value, result = .ok value) ∧
      (¬ ResultAgrees db context.runId step payload →
        (∃ error, result = .error error) ∧ after.workflowEvents = db.workflowEvents) := by
  rcases Program.runs_bind.mp hruns with ⟨error, herror, -⟩ | ⟨_, middle, hmirror, hrecord⟩
  · obtain ⟨value, hvalue⟩ := returning_mirrorEvidence context _ _ _ herror
    cases hvalue
  have hlog : middle.workflowEvents = db.workflowEvents :=
    (repairs_mirrorEvidence (hmirror.mono storesAlone_of_answersAlone)).workflowEvents
  obtain ⟨hreturns, hraises⟩ := runs_recordEvidence hrecord
  refine ⟨fun hagrees ↦ hreturns ((resultAgrees_of_log hlog).mpr hagrees), fun hdisagrees ↦ ?_⟩
  obtain ⟨herror, rfl⟩ := hraises fun hagrees ↦ hdisagrees ((resultAgrees_of_log hlog).mp hagrees)
  exact ⟨herror, hlog⟩

/-- Without failures the evidence of a success is complete exactly when the log agrees. -/
theorem runs_recordExternalSuccessEvidence {result : Except Failure Unit}
    (hruns : (coordinator.recordExternalSuccessEvidence context step payload).Runs
      (answersAlone hasher) db result after) :
    (∃ value, result = .ok value) ↔ ResultAgrees db context.runId step payload := by
  unfold ExternalActionCoordinator.recordExternalSuccessEvidence at hruns
  rcases Program.runs_bind.mp hruns with ⟨error, herror, -⟩ | ⟨first, middle, hfirst, hlater⟩
  · obtain ⟨inner, hinner, -⟩ := Program.runs_attempt.mp herror
    cases hinner
  obtain ⟨inner, hinner, hattempt⟩ := Program.runs_attempt.mp hfirst
  obtain rfl := Except.ok.inj hinner
  obtain ⟨hreturns, hraises⟩ := runs_successEvidence hattempt
  by_cases hagrees : ResultAgrees db context.runId step payload
  · obtain ⟨value, rfl⟩ := hreturns hagrees
    exact ⟨fun _ ↦ hagrees, fun _ ↦ ⟨_, hlater.1⟩⟩
  · refine ⟨fun hreturned ↦ ?_, fun hagree ↦ absurd hagree hagrees⟩
    obtain ⟨⟨error, rfl⟩, hlog⟩ := hraises hagrees
    rcases Program.runs_bind.mp hlater with ⟨other, hother, -⟩ | ⟨second, last, hsecond, hend⟩
    · obtain ⟨inner, hinner, -⟩ := Program.runs_attempt.mp hother
      cases hinner
    obtain ⟨inner, hinner, hagain⟩ := Program.runs_attempt.mp hsecond
    obtain rfl := Except.ok.inj hinner
    obtain ⟨⟨again, rfl⟩, -⟩ := (runs_successEvidence hagain).2 fun hagree ↦
      hagrees ((resultAgrees_of_log hlog).mp hagree)
    obtain ⟨value, hvalue⟩ := hreturned
    have hraised : result = .error _ := hend.1
    rw [hvalue] at hraised
    cases hraised

/-! ### Evidence can be completed -/

theorem fenced_of_current {reading : Reading} {runId : String} {token : Option String}
    (hlease : assertCurrentRunLease db reading.nowMs runId token = .ok ()) :
    Fenced db reading runId token := by
  unfold assertCurrentRunLease at hlease
  cases token with
  | none => cases hlease
  | some token =>
    dsimp only at hlease
    cases hattempt : currentAttempt db runId token reading.nowMs with
    | none =>
      rw [hattempt] at hlease
      cases hlease
    | some row =>
      obtain ⟨hfind, hrunning, hheld⟩ :=
        (currentAttempt_eq_some_iff db runId token reading.nowMs row).mp hattempt
      unfold Fenced assertWorkflowLease
      simp [hfind, hrunning, hheld]

theorem canReturn_mirrorEvidence (hleased : Leased context db) :
    CanReturn hasher context (mirrorEvidence context) db :=
  (canReturn_listEvents hleased).bind fun events _ hafter ↦
    canReturn_mirrorEvents events none hafter

theorem runs_workflowEvidence_exists (reading : Reading) (runId eventType evidenceId : String) :
    (workflowEvidence runId eventType evidenceId).Runs (answersAlone hasher) db
      (.ok (loggedEvidence db runId eventType evidenceId)) db := by
  have hperform : (Call.workflow (.listEvents runId 0)).perform hasher db reading =
      .ok (listEvents db runId 0, db) := rfl
  exact Program.runs_bind.mpr (.inr ⟨listEvents db runId 0, db,
    Program.runs_ask.mpr ⟨reading, _, rfl, hperform⟩, rfl, rfl⟩)

theorem canReturn_recordEvidence {eventType evidenceId : String} {fields : Payload}
    (hleased : Leased context db)
    (hexecution : (db.executions.find context.runId).isSome = true)
    (hagrees : EvidenceAgrees db context.runId eventType evidenceId fields) :
    CanReturn hasher context
      (recordEvidence context.runId eventType evidenceId fields context.leaseToken) db := by
  obtain ⟨reading, hlease⟩ := hleased
  have hsought : (workflowEvidence context.runId eventType evidenceId).Runs (answersAlone hasher) db
      (.ok (loggedEvidence db context.runId eventType evidenceId)) db :=
    runs_workflowEvidence_exists reading context.runId eventType evidenceId
  cases hlogged : loggedEvidence db context.runId eventType evidenceId with
  | none =>
    rw [hlogged] at hsought
    obtain ⟨execution, hfind⟩ := Option.isSome_iff_exists.mp hexecution
    have hperform : (Call.workflow (.appendEvent context.runId eventType
        (("evidence_id", .str evidenceId) :: fields) context.leaseToken)).perform hasher
          db reading =
          .ok (newEvent db.workflowEvents context.runId eventType
              (("evidence_id", .str evidenceId) :: fields) (reading.utcNow 0),
            appendWorkflowEvent db context.runId eventType
              (("evidence_id", .str evidenceId) :: fields) (reading.utcNow 0)) := by
      have hfence : assertWorkflowLease db reading.nowMs context.runId context.leaseToken =
          .ok () := fenced_of_current hlease
      change Store.appendEvent db reading _ _ _ _ = _
      unfold Store.appendEvent fenced
      rw [hfence, hfind]
      rfl
    have happended : CanReturn hasher context ((WorkflowStore.appendEvent context.runId eventType
        (("evidence_id", .str evidenceId) :: fields) context.leaseToken).bind fun _ ↦
          (.done () : Quiet Unit)) db := by
      refine ⟨(), _, Program.runs_bind.mpr (.inr ⟨_, _,
        Program.runs_ask.mpr ⟨reading, _, rfl, hperform⟩, rfl, rfl⟩), reading, ?_⟩
      exact hlease
    obtain ⟨value, after, hruns, hafter⟩ := happended.bind fun _ _ hafter ↦
      canReturn_ensureRunEvidence eventType (("evidence_id", .str evidenceId) :: fields) hafter
    exact ⟨value, after, Program.runs_bind.mpr (.inr ⟨none, db, hsought, hruns⟩), hafter⟩
  | some existing =>
    rw [hlogged] at hsought
    obtain ⟨value, after, hruns, hafter⟩ :=
      canReturn_ensureRunEvidence eventType existing ⟨reading, hlease⟩
    refine ⟨value, after, Program.runs_bind.mpr (.inr ⟨some existing, db, hsought, ?_⟩), hafter⟩
    dsimp only
    rw [if_pos (hagrees existing hlogged)]
    exact hruns

/-- The attempt holds its lease and the execution exists. -/
structure ReadyToRestore (context : RuntimeExecutionContext) (db : Database) : Prop where
  leased : Leased context db
  execution : (db.executions.find context.runId).isSome = true

theorem answersAlone_execution {runId : String} (db : Database) (op : Op)
    (answer : Except Failure op.Answer) (after : Database)
    (hexists : (db.executions.find runId).isSome = true)
    (hstep : answersAlone hasher db op answer after) :
    (after.executions.find runId).isSome = true := by
  cases op with
  | store call =>
    obtain ⟨reading, reply, -, hperform⟩ := hstep
    have happly := execution_apply hasher ⟨reading, call⟩ hexists
    rwa [apply_of_ok hperform] at happly
  | decide | executeTool | evaluateFinish | enterProvider | awaitProvider | leaseLost
  | runtimeEnded | unfollowed => exact hstep.elim

/-- An attempt that holds its lease can complete the evidence of a success the log agrees with. -/
theorem recordExternalSuccessEvidence_returns (hready : ReadyToRestore context db)
    (hagrees : ResultAgrees db context.runId step payload) :
    ∃ value after, (coordinator.recordExternalSuccessEvidence context step payload).Runs
      (answersAlone hasher) db (.ok value) after := by
  obtain ⟨_, middle, hmirror, hleased⟩ :
      CanReturn hasher context (mirrorEvidence context) db := canReturn_mirrorEvidence hready.leased
  have hlog : middle.workflowEvents = db.workflowEvents :=
    (repairs_mirrorEvidence (hmirror.mono storesAlone_of_answersAlone)).workflowEvents
  have hexecution : (middle.executions.find context.runId).isSome = true :=
    hmirror.invariant answersAlone_execution hready.execution
  obtain ⟨_, after, hrecord, -⟩ : CanReturn hasher context
      (recordToolSuccess context step.stepId step.toolName payload) middle :=
    canReturn_recordEvidence hleased hexecution ((resultAgrees_of_log hlog).mpr hagrees)
  have hevidence : (ExternalActionCoordinator.successEvidence context step payload).Runs
      (answersAlone hasher) db (.ok ()) after :=
    Program.runs_bind.mpr (.inr ⟨_, middle, hmirror, hrecord⟩)
  exact ⟨(), after, Program.runs_bind.mpr (.inr ⟨.ok (), after,
    Program.runs_attempt.mpr ⟨.ok (), rfl, hevidence⟩, rfl, rfl⟩)⟩

end Evidence

/-! ### Restoring -/

/-- Two observations of one step with the same tool, arguments and result; a result is a
dictionary, whatever the order of its keys. -/
structure SameObservation (observation restored : ToolObservation) : Prop where
  stepId : restored.stepId = observation.stepId
  toolName : restored.toolName = observation.toolName
  arguments : restored.arguments = observation.arguments
  result : canonicalJson restored.result = canonicalJson observation.result

/-- `restore_success` returns the observation when no store call fails: it can, and it cannot end
otherwise. -/
def Restores (hasher : Hasher) (coordinator : ExternalActionCoordinator) (invocation : Invocation)
    (step : ToolCallRecord) (observation : ToolObservation) (db : Database) : Prop :=
  ∃ restored, SameObservation observation restored ∧
    (∃ after, (coordinator.restoreSuccess invocation step).Runs (answersAlone hasher) db
      (.ok restored) after) ∧
    ∀ result after, (coordinator.restoreSuccess invocation step).Runs (answersAlone hasher) db
      result after → result = .ok restored

section Restoring

variable {hasher : Hasher} {coordinator : ExternalActionCoordinator} {invocation : Invocation}
  {step : ToolCallRecord} {db : Database}

/-- What `restore_success` does after its binding check. -/
def restoreRecorded (coordinator : ExternalActionCoordinator) (invocation : Invocation)
    (step : ToolCallRecord) (action : ExternalActionRecord) : Plain ToolObservation :=
  match ExternalActionCoordinator.restorableResult invocation step action with
  | .error (code, detail) =>
    coordinator.failRestoredStep invocation.context (some action) code detail
  | .ok result =>
    (coordinator.recordExternalSuccessEvidence invocation.context step result : Plain Unit).bind
      fun _ ↦ .done ⟨step.stepId, step.toolName, invocation.normalizedArguments, result, true⟩

theorem answers_getExternalAction {runId stepId : String} {after : Database}
    {result : Except Failure (Option ExternalActionRecord)}
    (hruns : (WorkflowStore.getExternalAction runId stepId).Runs (answersAlone hasher) db result
      after) :
    result = .ok ((db.externalActions.find (runId, stepId)).map (.of runId stepId)) ∧
      after = db := by
  rcases Program.runs_bind.mp hruns with ⟨error, herror, -⟩ | ⟨found, middle, hread, hdone⟩
  · have hreturning : Returning hasher (workflowCall (.getExternalAction runId stepId) rfl :
        Quiet (Option ExternalActionRow)) := returning_store _ rfl
    obtain ⟨value, hvalue⟩ := hreturning _ _ _ herror
    cases hvalue
  · have hstep : answersAlone hasher db (.store (.workflow (.getExternalAction runId stepId)))
        (.ok found) middle := Program.runs_ask.mp hread
    obtain ⟨reading, reply, hreply, hperform⟩ := hstep
    have hread : (Except.ok (db.externalActions.find (runId, stepId), db) :
        Except StoreError (Option ExternalActionRow × Database)) = .ok (reply, middle) := hperform
    obtain ⟨rfl, rfl⟩ := Prod.mk.inj (Except.ok.inj hread)
    obtain rfl := Except.ok.inj hreply
    exact hdone

theorem runs_restoreSuccess {row : ExternalActionRow} {result : Except Failure ToolObservation}
    {after : Database} (reading : Reading)
    (hfind : db.externalActions.find (invocation.context.runId, step.stepId) = some row)
    (hvalid : coordinator.validateExternalActionBinding invocation step
      (.of invocation.context.runId step.stepId row) none = .done ()) :
    (coordinator.restoreSuccess invocation step).Runs (answersAlone hasher) db result after ↔
      (restoreRecorded coordinator invocation step
        (.of invocation.context.runId step.stepId row)).Runs (answersAlone hasher) db result
          after := by
  have hcontinues : (restoreRecorded coordinator invocation step
      (.of invocation.context.runId step.stepId row)) =
        (coordinator.validateExternalActionBinding invocation step
          (.of invocation.context.runId step.stepId row) none).bind fun _ ↦
            restoreRecorded coordinator invocation step
              (.of invocation.context.runId step.stepId row) := by
    rw [hvalid]
    rfl
  have hread : (WorkflowStore.getExternalAction invocation.context.runId step.stepId).Runs
      (answersAlone hasher) db (.ok (some (.of invocation.context.runId step.stepId row))) db := by
    have hperform : (Call.workflow (.getExternalAction invocation.context.runId
        step.stepId)).perform hasher db reading = .ok (some row, db) :=
      congrArg (fun found ↦ (Except.ok (found, db) : Except StoreError _)) hfind
    exact Program.runs_bind.mpr (.inr ⟨some row, db,
      Program.runs_ask.mpr ⟨reading, _, rfl, hperform⟩, rfl, rfl⟩)
  constructor
  · intro hruns
    rw [hcontinues]
    rcases Program.runs_bind.mp hruns with ⟨error, herror, -⟩ | ⟨found, middle, hfound, hlater⟩
    · cases (answers_getExternalAction (Program.runs_widen.mp herror)).1
    · obtain ⟨hvalue, rfl⟩ := answers_getExternalAction (Program.runs_widen.mp hfound)
      rw [hfind] at hvalue
      obtain rfl := Except.ok.inj hvalue
      exact hlater
  · intro hruns
    rw [hcontinues] at hruns
    exact Program.runs_bind.mpr (.inr ⟨_, db, Program.runs_widen.mpr hread, hruns⟩)

/-- Whether a recorded success is restored is decided by the reference and by the log. -/
theorem restores_iff {outputModel : Payload → Payload → Option Payload} {raw trusted : Payload}
    {reference : String} {row : ExternalActionRow}
    (hmodel : invocation.spec.outputModel = some outputModel)
    (hnormalizes : Normalizes outputModel)
    (hdumped : outputModel invocation.normalizedArguments raw = some trusted)
    (hsafe : (Json.obj trusted).containsText invocation.idempotencyKey = false)
    (hdispatched : DispatchedOnce db)
    (hrecorded : RecordedSuccess db (invocation.context.runId, step.stepId) reference
      (canonicalJson trusted) row step.toToolCallRow)
    (hbinding : coordinator.bindingMatches invocation step
      (.of invocation.context.runId step.stepId row) none = true)
    (hready : ReadyToRestore invocation.context db) :
    Restores hasher coordinator invocation step (acceptedObservation invocation step trusted) db ↔
      trusted.getD "provider_reference" = .str reference ∧
        ResultAgrees db invocation.context.runId step (readBackResult trusted) := by
  have hvalid := validate_recorded hdispatched hrecorded hbinding
  have hresult : ExternalActionCoordinator.restorableResult invocation step
      (.of invocation.context.runId step.stepId row) =
        if trusted.getD "provider_reference" = .str reference then .ok (readBackResult trusted)
        else .error ("invalid_planner_decision", untrustedReference) :=
    restorableResult_of_recorded hmodel hnormalizes hdumped hsafe hrecorded
  obtain ⟨reading, hlease⟩ := hready.leased
  have hruns (result : Except Failure ToolObservation) (after : Database) :
      (coordinator.restoreSuccess invocation step).Runs (answersAlone hasher) db result after ↔ _ :=
    runs_restoreSuccess reading hrecorded.findAction hvalid
  unfold restoreRecorded at hruns
  rw [hresult] at hruns
  by_cases hkept : trusted.getD "provider_reference" = .str reference
  · rw [if_pos hkept] at hruns
    dsimp only at hruns
    have hends {result : Except Failure ToolObservation} {after : Database}
        (hrun : (coordinator.restoreSuccess invocation step).Runs (answersAlone hasher) db result
          after) :
        (∃ error, result = .error error ∧
            ¬ ResultAgrees db invocation.context.runId step (readBackResult trusted)) ∨
          result = .ok ⟨step.stepId, step.toolName, invocation.normalizedArguments,
              readBackResult trusted, true⟩ ∧
            ResultAgrees db invocation.context.runId step (readBackResult trusted) := by
      rcases Program.runs_bind.mp ((hruns result after).mp hrun) with
        ⟨error, herror, rfl⟩ | ⟨value, middle, hvalue, hdone⟩
      · refine .inl ⟨error, rfl, fun hagrees ↦ ?_⟩
        obtain ⟨value, hvalue⟩ := (runs_recordExternalSuccessEvidence
          (Program.runs_widen.mp herror)).mpr hagrees
        cases hvalue
      · exact .inr ⟨hdone.1, (runs_recordExternalSuccessEvidence
          (Program.runs_widen.mp hvalue)).mp ⟨value, rfl⟩⟩
    constructor
    · rintro ⟨restored, -, ⟨after, hrestored⟩, -⟩
      rcases hends hrestored with ⟨error, herror, -⟩ | ⟨-, hagrees⟩
      · cases herror
      · exact ⟨hkept, hagrees⟩
    · rintro ⟨-, hagrees⟩
      refine ⟨⟨step.stepId, step.toolName, invocation.normalizedArguments, readBackResult trusted,
        true⟩, ⟨rfl, rfl, rfl, canonicalJson_readBackResult trusted⟩, ?_,
          fun result after hrun ↦ ?_⟩
      · obtain ⟨value, after, hevidence⟩ :
            ∃ value after, (coordinator.recordExternalSuccessEvidence invocation.context step
              (readBackResult trusted)).Runs (answersAlone hasher) db (.ok value) after :=
          recordExternalSuccessEvidence_returns hready hagrees
        exact ⟨after, (hruns _ _).mpr (Program.runs_bind.mpr (.inr ⟨value, after,
          Program.runs_widen.mpr hevidence, rfl, rfl⟩))⟩
      · rcases hends hrun with ⟨error, -, hdisagrees⟩ | ⟨hok, -⟩
        · exact absurd hagrees hdisagrees
        · exact hok
  · rw [if_neg hkept] at hruns
    constructor
    · rintro ⟨restored, -, ⟨after, hrestored⟩, -⟩
      obtain ⟨error, herror⟩ := (neverReturns_failRestoredStep coordinator invocation.context _ _
        _).runs ((hruns _ _).mp hrestored)
      cases herror
    · rintro ⟨hkeeps, -⟩
      exact absurd hkeeps hkept

end Restoring

/-! ### The result -/

theorem dumped_of_trustedResult {invocation : Invocation}
    {outputModel : Payload → Payload → Option Payload} {answer : ProviderResult} {trusted : Payload}
    (htrusted : ExternalActionCoordinator.trustedResult invocation outputModel answer =
      some trusted) :
    outputModel invocation.normalizedArguments answer.completed = some trusted ∧
      (Json.obj trusted).containsText invocation.idempotencyKey = false := by
  unfold ExternalActionCoordinator.trustedResult at htrusted
  dsimp only at htrusted
  split_ifs at htrusted
  split at htrusted
  · cases htrusted
  · next normalized hnormalized =>
    split_ifs at htrusted with hsecret
    obtain rfl := Option.some.inj htrusted
    exact ⟨hnormalized, by simpa using hsecret⟩

theorem keepsReference_iff {outputModel : Payload → Payload → Option Payload}
    {arguments trusted : Payload} {answer : ProviderResult}
    (hdumped : outputModel arguments answer.completed = some trusted) :
    KeepsReference outputModel arguments answer ↔
      trusted.getD "provider_reference" = .str answer.providerReference := by
  unfold KeepsReference
  rw [hdumped]
  exact ⟨fun hkeeps ↦ hkeeps trusted rfl, fun hkept dumped hother ↦
    Option.some.inj hother ▸ hkept⟩

/-- Every state after the commit is one the stores reach from the start of the dispatch. -/
theorem run_of_commit {scope : Op → Bool} {hasher : Hasher} {commit : SuccessCommit}
    {rest : Except Failure ExternalActionRow → Program Op.Answer Failure scope ToolObservation}
    {program : Program Op.Answer Failure scope ToolObservation} {reading : Reading}
    {row : ExternalActionRow} {db before committed : Database}
    (hreaches : ReachesCommit hasher commit rest before program db)
    (hcommit : commit.call.perform before reading = .ok (row, committed))
    (others : List Request) :
    ∃ requests, (storeMachine hasher).run committed others =
      (storeMachine hasher).run db requests := by
  have hkeeps : ∀ state op answer after,
      (∃ requests, state = (storeMachine hasher).run db requests) →
      amongOthers hasher state op answer after →
        ∃ requests, after = (storeMachine hasher).run db requests := by
    rintro state op answer after ⟨requests, rfl⟩ hstep
    obtain ⟨more, rfl⟩ := amongOthers_run hstep
    exact ⟨requests ++ more, ((storeMachine hasher).run_append _ _ _).symm⟩
  have hbefore := Program.Reaches.invariant hkeeps hreaches ⟨[], rfl⟩
  obtain ⟨earlier, rfl⟩ := hbefore
  have happly : Request.apply hasher ((storeMachine hasher).run db earlier)
      ⟨reading, .workflow commit.call⟩ = committed := apply_of_ok hcommit
  refine ⟨earlier ++ ⟨reading, .workflow commit.call⟩ :: others, ?_⟩
  rw [(storeMachine hasher).run_append, (storeMachine hasher).run_cons]
  exact congrArg (fun state ↦ (storeMachine hasher).run state others) happly.symm

section Result

variable {hasher : Hasher} {coordinator : ExternalActionCoordinator} {registry : ProviderRegistry}
  {providerName : String} {invocation : Invocation} {step : ToolCallRecord} {attemptToken : String}
  {rounds : Nat} {action : ExternalActionRecord} {dispatchToken : String}
  {outputModel : Payload → Payload → Option Payload} {commit : SuccessCommit}
  {rest : Except Failure ExternalActionRow → Runtime ToolObservation} {reading : Reading}
  {row : ExternalActionRow} {observation : ToolObservation} {db before committed : Database}
  {recovered : RuntimeExecutionContext}

/-- After the commit of an accepted answer, the reference in the result and the log decide. -/
theorem restores_after_commit (hmodel : invocation.spec.outputModel = some outputModel)
    (hnormalizes : Normalizes outputModel) (hreachable : (storeMachine hasher).Reachable db)
    (hready : ReadyToDispatch coordinator invocation step action db)
    (hreaches : ReachesCommit hasher commit rest before
      (coordinator.dispatchExternalAction registry providerName invocation step attemptToken rounds
        action dispatchToken) db)
    (hcommit : commit.call.perform before reading = .ok (row, committed))
    (hreturns : (rest (.ok row)).Returns observation)
    (hsame : SameRun invocation.context recovered) (others : List Request)
    (hrestore : ReadyToRestore recovered ((storeMachine hasher).run committed others)) :
    ∃ answer stepRow, ExternalActionCoordinator.trustedResult invocation outputModel answer =
        some observation.result ∧ commit.providerReference = answer.providerReference ∧
      ((storeMachine hasher).run committed others).toolCalls.find (recovered.runId, step.stepId) =
        some stepRow ∧
      (Restores hasher coordinator (invocation.recoveredIn recovered)
          (.of recovered.runId step.stepId stepRow) observation
          ((storeMachine hasher).run committed others) ↔
        observation.result.getD "provider_reference" = .str answer.providerReference ∧
          ResultAgrees ((storeMachine hasher).run committed others) recovered.runId
            (.of recovered.runId step.stepId stepRow) (readBackResult observation.result)) := by
  obtain ⟨answer, trusted, htrusted, haccepts⟩ :=
    accepts_of_dispatch hmodel rounds hreaches hreturns
  obtain ⟨hdumped, hsafe⟩ := dumped_of_trustedResult htrusted
  obtain ⟨runId, stepId, dispatch, attempt, json, provided, code⟩ := commit
  obtain ⟨rfl, rfl, rfl, rfl, rfl⟩ := haccepts
  -- The commit stands in the ledger of every later state.
  obtain ⟨recorded, stepRow, hrecorded⟩ : ∃ recorded stepRow, RecordedSuccess committed
      (invocation.context.runId, step.stepId) answer.providerReference
      (Json.obj (readBackResult trusted)).sortKeys recorded stepRow :=
    recordedSuccess_of_finalize hcommit
  have hcanonical : (Json.obj (readBackResult trusted)).sortKeys = canonicalJson trusted :=
    canonicalJson_readBackResult trusted
  have hlater := recordedSuccess_run hasher others hrecorded
  rw [hcanonical, ← hsame.runId] at hlater
  obtain ⟨requests, hfinal⟩ : ∃ requests, (storeMachine hasher).run committed others =
      (storeMachine hasher).run db requests :=
    run_of_commit hreaches hcommit others
  have hdispatched : DispatchedOnce ((storeMachine hasher).run committed others) := by
    obtain ⟨history, rfl⟩ := hreachable
    rw [hfinal]
    exact dispatchedOnce_run hasher requests
      (dispatchedOnce_run hasher history dispatchedOnce_empty)
  have hbound : ReadyToDispatch coordinator invocation step action
      ((storeMachine hasher).run committed others) := hfinal ▸ hready.run requests
  obtain ⟨identity, hbinding⟩ := hbound.binding
  obtain ⟨actionRow, hactionRow, hsameAction⟩ := hbound.findAction
  obtain ⟨foundStep, hfoundStep, hsameStep⟩ := hbound.findStep
  rw [← hsame.runId] at hactionRow hfoundStep
  obtain rfl := Option.some.inj (hlater.findAction.symm.trans hactionRow)
  obtain rfl := Option.some.inj (hlater.findStep.symm.trans hfoundStep)
  have hobservation : acceptedObservation invocation step trusted =
      acceptedObservation (invocation.recoveredIn recovered)
        (.of recovered.runId step.stepId stepRow) trusted := by
    have htool : stepRow.toolName = step.toolName := hsameStep.toolName
    simp only [acceptedObservation, Invocation.recoveredIn, ToolCallRecord.of, htool]
  refine ⟨answer, stepRow, htrusted, rfl, hlater.findStep, ?_⟩
  rw [hobservation]
  exact restores_iff hmodel hnormalizes hdumped hsafe hdispatched hlater
    (bindingMatches_recovered hsame hbinding hsameAction hsameStep) hrestore

end Result

/-- A dispatch that commits a success and would return an observation accepted an answer of the
provider. After a crash right after the commit, and whatever requests follow it, an attempt of the
same Run under the same authority that holds its lease restores that observation if and only if the
output model left the provider's reference as it was and the log holds no other result of the
step. -/
theorem recorded_success_restorable_iff (hasher : Hasher)
    (coordinator : ExternalActionCoordinator) (registry : ProviderRegistry) (providerName : String)
    (invocation : Invocation) (step : ToolCallRecord) (attemptToken : String) (rounds : Nat)
    (action : ExternalActionRecord) (dispatchToken : String)
    (outputModel : Payload → Payload → Option Payload) (commit : SuccessCommit)
    (rest : Except Failure ExternalActionRow → Runtime ToolObservation) (reading : Reading)
    (row : ExternalActionRow) (observation : ToolObservation) (db before committed : Database)
    (others : List Request) (recovered : RuntimeExecutionContext)
    (hmodel : invocation.spec.outputModel = some outputModel)
    (hnormalizes : Normalizes outputModel) (hreachable : (storeMachine hasher).Reachable db)
    (hready : ReadyToDispatch coordinator invocation step action db)
    (hreaches : ReachesCommit hasher commit rest before
      (coordinator.dispatchExternalAction registry providerName invocation step attemptToken rounds
        action dispatchToken) db)
    (hcommit : commit.call.perform before reading = .ok (row, committed))
    (hreturns : (rest (.ok row)).Returns observation)
    (hsame : SameRun invocation.context recovered)
    (hrestore : ReadyToRestore recovered ((storeMachine hasher).run committed others)) :
    ∃ answer stepRow, ExternalActionCoordinator.trustedResult invocation outputModel answer =
        some observation.result ∧ commit.providerReference = answer.providerReference ∧
      ((storeMachine hasher).run committed others).toolCalls.find (recovered.runId, step.stepId) =
        some stepRow ∧
      (Restores hasher coordinator (invocation.recoveredIn recovered)
          (.of recovered.runId step.stepId stepRow) observation
          ((storeMachine hasher).run committed others) ↔
        KeepsReference outputModel invocation.normalizedArguments answer ∧
          ResultAgrees ((storeMachine hasher).run committed others) recovered.runId
            (.of recovered.runId step.stepId stepRow) (readBackResult observation.result)) := by
  obtain ⟨answer, stepRow, htrusted, hreference, hfind, hiff⟩ := restores_after_commit hmodel
    hnormalizes hreachable hready hreaches hcommit hreturns hsame others hrestore
  refine ⟨answer, stepRow, htrusted, hreference, hfind, ?_⟩
  rw [keepsReference_iff (dumped_of_trustedResult htrusted).1]
  exact hiff

/-- An output model of one text field, `provider_reference`, whose leading blanks it strips. -/
def strippingModel (_ raw : Payload) : Option Payload :=
  match canonicalJson raw with
  | .obj [(key, .str text)] =>
    if key = "provider_reference" then
      some [(key, .str (String.ofList (text.toList.dropWhile (· == ' '))))]
    else none
  | _ => none

theorem strippingModel_eq_some {arguments raw dumped : Payload}
    (hdumped : strippingModel arguments raw = some dumped) :
    ∃ text : String, dumped =
      [("provider_reference", .str (String.ofList (text.toList.dropWhile (· == ' '))))] := by
  unfold strippingModel at hdumped
  split at hdumped
  · next key text hraw =>
    split_ifs at hdumped with hkey
    subst hkey
    exact ⟨text, (Option.some.inj hdumped).symm⟩
  · cases hdumped

theorem normalizes_strippingModel : Normalizes strippingModel where
  proper hdumped := by
    obtain ⟨text, rfl⟩ := strippingModel_eq_some hdumped
    simp [Json.Proper, Json.ProperFields]
  unordered hsame := by
    unfold strippingModel
    rw [hsame]
  idempotent hdumped := by
    obtain ⟨text, rfl⟩ := strippingModel_eq_some hdumped
    simp [strippingModel, canonicalJson, Json.sortKeys, Json.sortKeysFields, Json.insertField,
      List.dropWhile_idempotent]

/-- The booking as dispatched for the first time. -/
def dispatchedBooking : Database :=
  (storeMachine sampleHasher).run Database.empty (bookingHistory.take 6)

def bookingContext : RuntimeExecutionContext :=
  ⟨"r1", "trip", false, ⟨"acme", "alice", []⟩, some "lease_a"⟩

def bookingInvocation : Invocation where
  context := bookingContext
  spec := ⟨"book", .externalWrite, .providerIdempotent, some "air", some, some strippingModel, none⟩
  normalizedArguments := []
  inputHash := "h"
  idempotencyKey := "k"

def bookingStep : ToolCallRecord := .of "r1" "s1" (freshStep "call_c" "attempt_c" "book" "h" "c")

def bookingAction : ExternalActionRecord :=
  .of "r1" "s1" (dispatchedAction
    (preparedAction ⟨"acme", "alice", "travel", "book", "air", "air-1", "h", .obj [],
      .providerIdempotent, "k"⟩ "action_d" "d") "dispatch_e" "e")

def bookingCoordinator : ExternalActionCoordinator where
  dispatcher := none
  workflowType := "travel"
  maxDispatches := 2
  failureMessages := fun _ ↦ none
  onFail := fun _ code detail ↦ .raise (.other code detail)
  sha256 := fun _ ↦ "h"
  rounds := 1

def bookingCommit (text : String) (trusted : Payload) : SuccessCommit :=
  ⟨"r1", "s1", "dispatch_e", "attempt_c", canonicalJson trusted, text, none⟩

theorem readyToDispatch_booking :
    ReadyToDispatch bookingCoordinator bookingInvocation bookingStep bookingAction
      dispatchedBooking where
  binding := ⟨none, by decide +kernel⟩
  findAction := ⟨bookingAction.toExternalActionRow, by rfl, rfl, rfl⟩
  findStep := ⟨bookingStep.toToolCallRow, by rfl, rfl, rfl⟩

/-- What the provider answers: a reference and nothing else. -/
def bookingAnswer (text : String) : Json :=
  .obj [("provider_reference", .str text), ("result", .obj [])]

theorem validate_bookingAnswer {text : String} (hbounded : bounded text 500 = true) :
    validateProviderResult (bookingAnswer text) = some ⟨text, []⟩ := by
  simp [validateProviderResult, bookingAnswer, Payload.get?, Json.lookup, hbounded]

/-- The first dispatch of the booking. -/
def bookingDispatch : Runtime ToolObservation :=
  bookingCoordinator.dispatchExternalAction (fun _ ↦ some ⟨"air-1", true⟩) "air" bookingInvocation
    bookingStep "attempt_c" 1 bookingAction "dispatch_e"

theorem booking_reaches_commit (text : String) (trusted : Payload)
    (hvalid : validateProviderResult (bookingAnswer text) = some ⟨text, []⟩)
    (htrusted : ExternalActionCoordinator.trustedResult bookingInvocation strippingModel
      ⟨text, []⟩ = some trusted) :
    ∃ rest, ReachesCommit sampleHasher (bookingCommit text trusted) rest dispatchedBooking
        bookingDispatch dispatchedBooking ∧
      ∀ row, (rest (.ok row)).Returns
        (acceptedObservation bookingInvocation bookingStep trusted) := by
  have hrequest : externalActionRequest bookingAction =
      .ok ⟨"action_d", "r1", "s1", "acme", "alice", "travel", "book", [], "k"⟩ := rfl
  have hrouted : some "air-1" = some bookingAction.providerIdentity := rfl
  have hmodel : bookingInvocation.spec.outputModel = some strippingModel := rfl
  obtain ⟨rest, hrest, hreturns⟩ : ∃ rest,
      (bookingCoordinator.recordTrustedResult bookingInvocation bookingStep bookingAction
        "dispatch_e" "attempt_c" trusted text).widen Op.runtime_of_plain =
          .call (.store (.workflow (bookingCommit text trusted).call)) rfl rest ∧
      ∀ row, (rest (.ok row)).Returns
        (acceptedObservation bookingInvocation bookingStep trusted) :=
    ⟨_, rfl, fun row ↦ ⟨.ok [], .ok [], .ok (newEvent [] "" "" [] ""), .ok [],
      .ok (newEvent [] "" "" [] ""), rfl⟩⟩
  refine ⟨rest, ?_, hreturns⟩
  unfold bookingDispatch ExternalActionCoordinator.dispatchExternalAction
  simp only [Option.map_some, Program.bind_eq_bind]
  rw [if_neg (not_not.mpr hrouted), hrequest]
  refine Program.Reaches.later (.ok ()) rfl ?_
  refine Program.Reaches.later (.ok (bookingAnswer text)) rfl ?_
  dsimp only [Program.bind, Program.handle]
  rw [hvalid, hmodel]
  dsimp only [Program.bind, Program.handle, Program.pure_eq_done]
  rw [htrusted]
  change Program.Reaches _ _ _ _ ((bookingCoordinator.recordTrustedResult bookingInvocation
    bookingStep bookingAction "dispatch_e" "attempt_c" trusted text).widen Op.runtime_of_plain) _
  rw [hrest]
  exact Program.Reaches.here rfl

/-- The worker that claims the Run after the lease of the crashed one has lapsed. -/
def laterClaim : List Request := [⟨sampleReading 90000 "z", .run (.claimNextRun "w2" 30 none)⟩]

def recoveredContext : RuntimeExecutionContext :=
  ⟨"r1", "trip", true, ⟨"acme", "alice", []⟩, some "lease_z"⟩

/-- The state when the booking is restored, its success committed under a reference. -/
def committedBooking (text : String) (trusted : Payload) : Database :=
  Request.apply sampleHasher dispatchedBooking
    ⟨sampleReading 5 "f", .workflow (bookingCommit text trusted).call⟩

theorem readyToRestore_booking (text : String) (trusted : Payload)
    (hclaims : (currentAttempt ((storeMachine sampleHasher).run (committedBooking text trusted)
      laterClaim) "r1" "lease_z" 90001).isSome = true)
    (hexecution : (((storeMachine sampleHasher).run (committedBooking text trusted)
      laterClaim).executions.find "r1").isSome = true) :
    ReadyToRestore recoveredContext ((storeMachine sampleHasher).run
      (committedBooking text trusted) laterClaim) where
  leased := by
    refine ⟨sampleReading 90001 "y", ?_⟩
    obtain ⟨row, hrow⟩ := Option.isSome_iff_exists.mp hclaims
    change assertCurrentRunLease _ 90001 "r1" (some "lease_z") = .ok ()
    unfold assertCurrentRunLease
    dsimp only
    rw [hrow]
  execution := hexecution

theorem perform_bookingCommit (text : String) (trusted : Payload)
    (hcommits : ((bookingCommit text trusted).call.perform dispatchedBooking
      (sampleReading 5 "f")).isOk = true) :
    ∃ row, (bookingCommit text trusted).call.perform dispatchedBooking (sampleReading 5 "f") =
      .ok (row, committedBooking text trusted) := by
  cases hperform : (bookingCommit text trusted).call.perform dispatchedBooking
      (sampleReading 5 "f") with
  | error error =>
    rw [hperform] at hcommits
    cases hcommits
  | ok reply =>
    obtain ⟨row, after⟩ := reply
    have hafter : committedBooking text trusted = after := apply_of_ok hperform
    exact ⟨row, by rw [hafter]⟩

/-- What the stripping model makes of the reference of the booking. -/
def strippedResult : Payload := [("provider_reference", .str "ref-1")]

/-- The booking when the later worker restores it. -/
def recoveredBooking (text : String) : Database :=
  (storeMachine sampleHasher).run (committedBooking text strippedResult) laterClaim

set_option maxRecDepth 10000 in
/-- A reference that the output model leaves alone comes back with the observation. -/
theorem kept_booking_is_restored :
    ∃ stepRow, (recoveredBooking "ref-1").toolCalls.find ("r1", "s1") = some stepRow ∧
      Restores sampleHasher bookingCoordinator (bookingInvocation.recoveredIn recoveredContext)
        (.of "r1" "s1" stepRow) (acceptedObservation bookingInvocation bookingStep strippedResult)
        (recoveredBooking "ref-1") := by
  obtain ⟨rest, hreaches, hreturns⟩ := booking_reaches_commit "ref-1" strippedResult
    (validate_bookingAnswer (by decide +kernel)) (by decide +kernel)
  obtain ⟨row, hcommit⟩ := perform_bookingCommit "ref-1" strippedResult (by decide +kernel)
  have hrestore := readyToRestore_booking "ref-1" strippedResult (by decide +kernel)
    (by decide +kernel)
  obtain ⟨answer, stepRow, htrusted, hreference, hfind, hiff⟩ :=
    recorded_success_restorable_iff sampleHasher bookingCoordinator
      (fun _ ↦ some ⟨"air-1", true⟩) "air" bookingInvocation bookingStep "attempt_c" 1 bookingAction
      "dispatch_e" strippingModel (bookingCommit "ref-1" strippedResult) rest (sampleReading 5 "f")
      row (acceptedObservation bookingInvocation bookingStep strippedResult) dispatchedBooking
      dispatchedBooking (committedBooking "ref-1" strippedResult) laterClaim recoveredContext rfl
      normalizes_strippingModel ⟨bookingHistory.take 6, rfl⟩ readyToDispatch_booking hreaches
      hcommit
      (hreturns row) ⟨rfl, rfl⟩ hrestore
  refine ⟨stepRow, hfind, hiff.mpr ⟨?_, ?_⟩⟩
  · rw [keepsReference_iff (dumped_of_trustedResult htrusted).1, ← hreference]
    rfl
  · intro existing hlogged
    have hnone : loggedEvidence (recoveredBooking "ref-1") "r1" "tool.result" "tool-result:s1" =
        none := by decide +kernel
    exact absurd (hnone.symm.trans hlogged) (by simp)

set_option maxRecDepth 10000 in
/-- A provider whose reference starts with a blank: the output model strips it, the dispatch commits
and would return the observation, and no attempt restores it. -/
theorem stripped_booking_is_not_restored :
    Normalizes strippingModel ∧ (storeMachine sampleHasher).Reachable dispatchedBooking ∧
      ReadyToDispatch bookingCoordinator bookingInvocation bookingStep bookingAction
        dispatchedBooking ∧
      ∃ rest row stepRow,
        ReachesCommit sampleHasher (bookingCommit " ref-1" strippedResult) rest dispatchedBooking
          bookingDispatch dispatchedBooking ∧
        (bookingCommit " ref-1" strippedResult).call.perform dispatchedBooking
          (sampleReading 5 "f") = .ok (row, committedBooking " ref-1" strippedResult) ∧
        (rest (.ok row)).Returns
          (acceptedObservation bookingInvocation bookingStep strippedResult) ∧
        SameRun bookingContext recoveredContext ∧
        ReadyToRestore recoveredContext (recoveredBooking " ref-1") ∧
        (recoveredBooking " ref-1").toolCalls.find ("r1", "s1") = some stepRow ∧
        ¬ Restores sampleHasher bookingCoordinator (bookingInvocation.recoveredIn recoveredContext)
          (.of "r1" "s1" stepRow) (acceptedObservation bookingInvocation bookingStep strippedResult)
          (recoveredBooking " ref-1") := by
  obtain ⟨rest, hreaches, hreturns⟩ := booking_reaches_commit " ref-1" strippedResult
    (validate_bookingAnswer (by decide +kernel)) (by decide +kernel)
  obtain ⟨row, hcommit⟩ := perform_bookingCommit " ref-1" strippedResult (by decide +kernel)
  have hrestore := readyToRestore_booking " ref-1" strippedResult (by decide +kernel)
    (by decide +kernel)
  have hsame : SameRun bookingInvocation.context recoveredContext := ⟨rfl, rfl⟩
  obtain ⟨answer, stepRow, -, hreference, hfind, hiff⟩ :=
    restores_after_commit rfl normalizes_strippingModel ⟨bookingHistory.take 6, rfl⟩
      readyToDispatch_booking hreaches hcommit (hreturns row) hsame laterClaim hrestore
  refine ⟨normalizes_strippingModel, ⟨bookingHistory.take 6, rfl⟩, readyToDispatch_booking, rest,
    row, stepRow, hreaches, hcommit, hreturns row, hsame, hrestore, hfind, fun hrestores ↦ ?_⟩
  have hkept := (hiff.mp hrestores).1
  rw [← hreference] at hkept
  have hdifferent : strippedResult.getD "provider_reference" ≠ .str " ref-1" := by decide +kernel
  exact hdifferent hkept

end AgentRuntime.Execution
