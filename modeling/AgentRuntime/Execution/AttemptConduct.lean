import AgentRuntime.Execution.CoordinatorConduct

/-!
# The conduct of the loop and of the manager

`DynamicToolLoop` and `RuntimeManager` keep to the conduct of an attempt. A decision is the recorded
one, or it is recorded before it is acted on; a call is executed after `_authorize_call` let it
pass; each round adds one completed step to those the attempt has observed, and consults the planner
at most once. The result is `follows_executeOwnedRun`: the whole program of a worker obeys the
conduct of its claim.
-/

set_option autoImplicit false
set_option relaxedAutoImplicit false

namespace AgentRuntime.Execution

open Library Store

/-! ### Recorded decisions -/

/-- What was validated validates again as it was recorded. -/
theorem validateDecision_dump {raw : Json} {decision : PlannerDecision}
    (hvalid : validateDecision raw = some decision) :
    validateDecision decision.dump = some decision := by
  have htext {fields : Payload} {key text : String} {most : Nat}
      (hfield : textField fields key most = some text) : bounded text most = true := by
    unfold textField at hfield
    split at hfield
    · split_ifs at hfield with hbounded
      exact Option.some.inj hfield ▸ hbounded
    · cases hfield
  unfold validateDecision at hvalid
  split at hvalid
  · next fields =>
    split at hvalid
    · simp only [Option.bind_eq_bind, Option.bind_eq_some_iff, Option.pure_def,
        Option.some.injEq] at hvalid
      obtain ⟨-, -, toolName, hname, arguments, -, reason, hreason, rfl⟩ := hvalid
      simp [PlannerDecision.dump, validateDecision, Payload.get?, Json.lookup, onlyFields,
        textField, objectField, htext hname, htext hreason, guard]
    · simp only [Option.bind_eq_bind, Option.bind_eq_some_iff, Option.pure_def,
        Option.some.injEq] at hvalid
      obtain ⟨-, -, question, hquestion, reason, hreason, rfl⟩ := hvalid
      simp [PlannerDecision.dump, validateDecision, Payload.get?, Json.lookup, onlyFields,
        textField, htext hquestion, htext hreason, guard]
    · simp only [Option.bind_eq_bind, Option.bind_eq_some_iff, Option.pure_def,
        Option.some.injEq] at hvalid
      obtain ⟨-, -, message, hmessage, output, -, reason, hreason, rfl⟩ := hvalid
      simp [PlannerDecision.dump, validateDecision, Payload.get?, Json.lookup, onlyFields,
        textField, objectField, htext hmessage, htext hreason, guard]
    · cases hvalid
  · cases hvalid

theorem recordedDecision_accepted {raw : Json} {decision : PlannerDecision} {evidenceId : String}
    (index : Nat) (hvalid : validateDecision raw = some decision) :
    recordedDecision (("evidence_id", .str evidenceId) ::
      DynamicToolLoop.acceptedFields index decision) = some decision := by
  have hfield : Payload.get? (("evidence_id", .str evidenceId) ::
      DynamicToolLoop.acceptedFields index decision) "decision" = some decision.dump := by
    simp [DynamicToolLoop.acceptedFields, Payload.get?, Json.lookup]
  unfold recordedDecision
  rw [hfield]
  exact validateDecision_dump hvalid

section Loop

variable {manager : RuntimeManager} {claim : RunLeaseClaim} {history : History}
  {context : RuntimeExecutionContext} {loop : DynamicToolLoop} {α : Type}

/-! ### Planner decisions -/

theorem follows_recordPlannerFailure (hbelongs : Belongs claim context) (index : Nat)
    {code : String} (hplain : reportedStatus code = none) :
    Follows manager claim 0 (fun _ _ ↦ True)
      (DynamicToolLoop.recordPlannerFailure context index code) history := by
  refine follows_mono (follows_recordEvidence hbelongs.runId hbelongs.leaseToken (by decide)
    (fun _ other hother ↦ ?_) (fun htype ↦ absurd htype (by decide))
    fun htype ↦ absurd htype (by decide)) fun _ _ _ _ ↦ trivial
  have hcode : code = other := by
    simpa [Payload.getD, Payload.get?, Json.lookup] using hother
  exact hcode ▸ hplain

theorem follows_failLoopPlainly (hbelongs : Belongs claim context) {code : String}
    (detail : String) (hplain : reportedStatus code = none) {budget : Nat}
    {good : α → History → Prop} :
    Follows manager claim budget good (loop.fail context code detail : Plain α) history :=
  follows_failPlainly hbelongs rfl detail hplain

theorem warranted_rejectedCode {evidenceId : String} {persisted : Payload}
    (hevidenced : Evidenced claim.run.runId "planner.decision" evidenceId persisted history) :
    Warranted manager claim history (DynamicToolLoop.rejectedCode persisted) := by
  unfold DynamicToolLoop.rejectedCode
  split
  · next code hcode =>
    split_ifs
    · exact warranted_of_none rfl
    · intro status _
      exact .planner evidenceId persisted hevidenced hcode
  · exact warranted_of_none rfl

theorem follows_restoreDecision (hbelongs : Belongs claim context) {index : Nat}
    {persisted : Payload}
    (hevidenced : Evidenced claim.run.runId "planner.decision" (plannerId index) persisted
      history) :
    Follows manager claim 0
      (fun decision later ↦ Decided claim.run.runId index decision later)
      (loop.restoreDecision context persisted) history := by
  unfold DynamicToolLoop.restoreDecision
  simp only [Program.bind_eq_bind, Program.pure_eq_done]
  split_ifs
  · refine follows_bind (follows_widen (follows_ensureRunEvidence _ _)) fun _ later hlater _ ↦ ?_
    exact follows_of_never (follows_fail hbelongs rfl _
      (warranted_rejectedCode (hevidenced.mono hlater)))
  · split
    · exact follows_failLoopPlainly hbelongs _ rfl
    · next decision hdecision =>
      refine follows_bind (follows_widen (follows_ensureRunEvidence _ _))
        fun _ later hlater _ ↦ follows_done ?_
      exact .inl ⟨persisted, hdecision, hevidenced.mono hlater⟩

/-- A decision that was recorded after a look that did not show one. -/
theorem decided_of_recorded {raw : Json} {decision : PlannerDecision} {index : Nat}
    {before : History} {events : List EventRow} {deed : Deed} {later : History}
    (hnone : firstEvidence events "planner.decision" (plannerId index) = none)
    (hdeed : deed.isStore = false) (hvalid : validateDecision raw = some decision)
    (hrecorded : RecordedAfter claim.run.runId "planner.decision" (plannerId index)
      (("evidence_id", .str (plannerId index)) :: DynamicToolLoop.acceptedFields index decision)
      (before ++ [Deed.look claim.run.runId events] ++ [deed]) later) :
    Decided claim.run.runId index decision later := by
  obtain ⟨shown, rest, hlater, ⟨-, hevidenced⟩ | ⟨existing, hsome, -⟩⟩ := hrecorded
  · exact .inl ⟨_, recordedDecision_accepted index hvalid, hevidenced⟩
  · refine .inr ⟨before, events, [deed], shown, rest, ?_, ?_, hnone, ?_⟩
    · simpa using hlater
    · intro other hother
      exact List.mem_singleton.mp hother ▸ hdeed
    · rw [hsome]
      exact Option.some_ne_none existing

theorem follows_askPlanner (hbelongs : Belongs claim context)
    (hserves : Serves manager claim loop) (runtimeInput state : Payload)
    (observations : List ToolObservation) (index : Nat) {before : History}
    {events : List EventRow}
    (hlook : history = before ++ [Deed.look claim.run.runId events])
    (hnone : firstEvidence events "planner.decision" (plannerId index) = none)
    (hcount : consultations history ≤ loop.maxToolCalls) :
    Follows manager claim 1
      (fun decision later ↦ Decided claim.run.runId index decision later)
      (loop.askPlanner context runtimeInput state observations index) history := by
  unfold DynamicToolLoop.askPlanner
  simp only [Program.bind_eq_bind, Program.pure_eq_done]
  refine follows_consult ⟨loop, hserves, hcount⟩ fun answer ↦ ?_
  split
  · exact follows_bind (follows_widen (follows_recordPlannerFailure hbelongs index rfl))
      fun _ _ _ _ ↦ follows_failLoopPlainly hbelongs _ rfl
  · exact follows_bind (follows_widen (follows_recordPlannerFailure hbelongs index rfl))
      fun _ _ _ _ ↦ follows_failLoopPlainly hbelongs _ rfl
  · next raw =>
    split
    · exact follows_bind (follows_widen (follows_recordPlannerFailure hbelongs index rfl))
        fun _ _ _ _ ↦ follows_failLoopPlainly hbelongs _ rfl
    · next decision hvalid =>
      have hplain (code : String)
          (hcode : Payload.getD (("evidence_id", .str (plannerId index)) ::
            DynamicToolLoop.acceptedFields index decision) "error_code" = .str code) :
          reportedStatus code = none := by
        cases decision <;>
          simp [DynamicToolLoop.acceptedFields, Payload.getD, Payload.get?, Json.lookup] at hcode
      refine follows_bind (follows_widen (follows_recordEvidence hbelongs.runId hbelongs.leaseToken
        (by decide) (fun _ ↦ hplain) (fun htype ↦ absurd htype (by decide))
        fun htype ↦ absurd htype (by decide))) fun _ later _ hrecorded ↦ follows_done ?_
      rw [hbelongs.runId, hlook] at hrecorded
      exact decided_of_recorded hnone rfl hvalid hrecorded

theorem follows_decisionForIndex (hbelongs : Belongs claim context)
    (hserves : Serves manager claim loop) (runtimeInput state : Payload)
    (observations : List ToolObservation) (index : Nat)
    (hcount : consultations history ≤ loop.maxToolCalls) :
    Follows manager claim 1
      (fun decision later ↦ Decided claim.run.runId index decision later)
      (loop.decisionForIndex context runtimeInput state observations index) history := by
  unfold DynamicToolLoop.decisionForIndex
  refine follows_bind (follows_widen follows_workflowEvidence) fun found later hlater hfound ↦ ?_
  obtain ⟨events, rfl, rfl⟩ := hfound
  rw [hbelongs.runId]
  split
  · next persisted hsome =>
    refine follows_more (follows_restoreDecision hbelongs ?_) (Nat.zero_le _)
    exact .seen events (List.mem_append_right _ (List.mem_singleton_self _)) hsome
  · next hnone =>
    refine follows_askPlanner hbelongs hserves runtimeInput state observations index rfl hnone ?_
    rw [consultations_append]
    exact hcount

/-! ### Authorization -/

theorem lookup_of_pyEqFields {fields others : List (String × Json)} {key : String} {value : Json}
    (hequal : Json.pyEqFields fields others = true) (hvalue : Json.lookup fields key = some value) :
    ∃ other, Json.lookup others key = some other ∧ value.pyEq other = true := by
  induction fields with
  | nil => simp [Json.lookup] at hvalue
  | cons field rest ih =>
    obtain ⟨name, first⟩ := field
    rw [Json.pyEqFields, Bool.and_eq_true] at hequal
    by_cases hname : name = key
    · subst hname
      have hfirst : first = value := by simpa [Json.lookup] using hvalue
      subst hfirst
      cases hother : Json.lookup others name with
      | none => simp [hother] at hequal
      | some other =>
        rw [hother] at hequal
        exact ⟨other, rfl, hequal.1⟩
    · have hrest : Json.lookup rest key = some value := by
        simpa [Json.lookup, hname] using hvalue
      exact ih hequal.2 hrest

/-- A recorded policy decision that allows the step is evidence of it. -/
theorem policyAllowed_of_recorded {stepId toolName : String} {spec : ToolSpec} {later : History}
    (hrecorded : RecordedAfter claim.run.runId "policy.decision" ("policy:" ++ stepId)
      (("evidence_id", .str ("policy:" ++ stepId)) ::
        DynamicToolLoop.allowedFields spec stepId toolName) history later) :
    PolicyAllowed claim.run.runId stepId later := by
  have hallowed : Payload.get? (("evidence_id", .str ("policy:" ++ stepId)) ::
      DynamicToolLoop.allowedFields spec stepId toolName) "outcome" = some (.str "allowed") := by
    simp [DynamicToolLoop.allowedFields, Payload.get?, Json.lookup]
  obtain ⟨events, rest, hlater, ⟨-, hevidenced⟩ | ⟨existing, hsome, hequal⟩⟩ := hrecorded
  · refine ⟨_, fun value hvalue ↦ ?_, hevidenced⟩
    exact Option.some.inj (hvalue.symm.trans hallowed)
  · refine ⟨existing, fun value hvalue ↦ ?_, .seen events (by simp [hlater]) hsome⟩
    rw [Json.pyEq, Bool.and_eq_true] at hequal
    obtain ⟨other, hother, hsame⟩ := lookup_of_pyEqFields hequal.2 hvalue
    obtain rfl : other = .str "allowed" := Option.some.inj (hother.symm.trans hallowed)
    cases value <;> simp_all [Json.pyEq, Json.numeric]

theorem follows_refuseCall (hbelongs : Belongs claim context) (stepId toolName : String)
    {code : String} (detail : String) (hplain : reportedStatus code = none) :
    Follows manager claim 0 (fun _ _ ↦ False)
      (loop.refuseCall context stepId toolName code detail : Plain α) history := by
  refine follows_bind (follows_widen (follows_recordEvidence hbelongs.runId hbelongs.leaseToken
    (by decide) (fun htype ↦ absurd htype (by decide)) (fun _ ↦ ?_)
    fun htype ↦ absurd htype (by decide))) fun _ _ _ _ ↦ ?_
  · simp [Payload.get?, Json.lookup]
  · exact follows_failLoopPlainly hbelongs detail hplain

theorem follows_dispatchedAction (hbelongs : Belongs claim context) (stepId : String) :
    Follows manager claim 0
      (fun found later ↦ ∀ action, found = some action → KnowsAction claim later action)
      (ExternalActionCoordinator.dispatchedAction context.runId stepId) history := by
  refine follows_bind (follows_getExternalAction hbelongs stepId) fun found later _ hfound ↦ ?_
  split
  · exact follows_done fun _ hnone ↦ by cases hnone
  · next action =>
    refine follows_done fun other hother ↦ ?_
    split_ifs at hother
    exact Option.some.inj hother ▸ (hfound action rfl).2

theorem follows_reconcileDispatched (hbelongs : Belongs claim context)
    {dispatched : Option ExternalActionRecord}
    (hknows : ∀ action, dispatched = some action → KnowsAction claim history action) :
    Follows manager claim 0 (fun _ _ ↦ True) (loop.reconcileDispatched context dispatched)
      history := by
  cases dispatched with
  | none => exact follows_done trivial
  | some action => exact follows_reconcileAction hbelongs rfl (hknows action rfl)

theorem follows_denyCall (hbelongs : Belongs claim context)
    {dispatched : Option ExternalActionRecord} (stepId toolName : String) {code : String}
    (detail : String)
    (hknows : ∀ action, dispatched = some action → KnowsAction claim history action)
    (hplain : reportedStatus code = none) :
    Follows manager claim 0 (fun _ _ ↦ False)
      (loop.denyCall context dispatched stepId toolName code detail : Plain α) history :=
  follows_bind (follows_reconcileDispatched hbelongs hknows) fun _ _ _ _ ↦
    follows_refuseCall hbelongs stepId toolName detail hplain

/-- What `authorizeExternalWrite` checks. -/
structure WriteAuthorized (loop : DynamicToolLoop) (context : RuntimeExecutionContext)
    (runtimeInput : Payload) (spec : ToolSpec) : Prop where
  authority : allows context.authority "external-actions:execute" = true
  gate : ∀ gate, spec.runtimeInputGate = some gate → gate runtimeInput = some true
  provider : ∃ provider, loop.coordinator.providerFor spec = some provider ∧
    (spec.retryMode = .providerIdempotent → provider.supportsIdempotency = true)

theorem follows_authorizeExternalWrite (hbelongs : Belongs claim context) (runtimeInput : Payload)
    (spec : ToolSpec) {dispatched : Option ExternalActionRecord} (stepId toolName : String)
    (hknows : ∀ action, dispatched = some action → KnowsAction claim history action) :
    Follows manager claim 0 (fun _ _ ↦ WriteAuthorized loop context runtimeInput spec)
      (loop.authorizeExternalWrite context runtimeInput spec dispatched stepId toolName)
      history := by
  have hdeny (code detail : String) (hplain : reportedStatus code = none) :
      Follows manager claim 0 (fun _ _ ↦ False)
        (loop.denyCall context dispatched stepId toolName code detail : Plain Unit) history :=
    follows_denyCall hbelongs stepId toolName detail hknows hplain
  unfold DynamicToolLoop.authorizeExternalWrite
  simp only [Program.bind_eq_bind, Program.pure_eq_done]
  by_cases hallows : allows context.authority "external-actions:execute" = true
  · rw [if_neg (by rw [hallows]; decide)]
    split_ifs with hunrequested
    · exact follows_bind_never (hdeny "external_action_not_requested" _ rfl)
    · have hgate (gate : Payload → Option Bool) (hgated : spec.runtimeInputGate = some gate) :
          gate runtimeInput = some true := by
        rw [hgated] at hunrequested
        cases hvalue : gate runtimeInput with
        | none => simp [hvalue] at hunrequested
        | some value =>
          cases value with
          | false => simp [hvalue] at hunrequested
          | true => rfl
      split
      · exact follows_of_never (hdeny "external_action_not_configured" _ rfl)
      · next provider hprovider =>
        split_ifs with hidempotent
        · exact follows_of_never (hdeny "external_action_idempotency_unsupported" _ rfl)
        · refine follows_done ⟨hallows, hgate, provider, hprovider, fun hmode ↦ ?_⟩
          cases hsupports : provider.supportsIdempotency with
          | true => rfl
          | false => exact (hidempotent ⟨hmode, hsupports⟩).elim
  · rw [if_pos (by simpa using hallows)]
    exact follows_bind_never (hdeny "external_action_permission_denied" _ rfl)

theorem follows_authorizeCall (hbelongs : Belongs claim context)
    (hserves : Serves manager claim loop) {runtimeInput : Payload}
    (hinput : LoopInput manager claim runtimeInput) {decision : CallToolDecision} {count : Nat}
    (hdecided : Decided claim.run.runId (count + 1) (.callTool decision) history) :
    Follows manager claim 0
      (fun normalized later ↦ count < loop.maxToolCalls ∧ ∃ spec, Authorized manager claim later
        ⟨loop, runtimeInput, count + 1, decision, spec, normalized⟩)
      (loop.authorizeCall context runtimeInput decision (callStepId (count + 1)) count)
      history := by
  unfold DynamicToolLoop.authorizeCall
  simp only [Program.bind_eq_bind, Program.pure_eq_done]
  refine follows_bind (follows_widen (follows_dispatchedAction hbelongs _))
    fun dispatched later hlater hknows ↦ ?_
  split
  · exact follows_of_never (follows_refuseCall hbelongs _ _ _ rfl)
  · next hlimit =>
    split
    · exact follows_of_never (follows_denyCall hbelongs _ _ _ hknows rfl)
    · next spec hregistered =>
      split
      · exact follows_bind_never (follows_denyCall hbelongs _ _ _ hknows rfl)
      · next hallows =>
        have hallowed : allows context.authority "tools:execute" = true := by simpa using hallows
        -- The record that the call is allowed, after both kinds of checks.
        have hrecord (normalized : Payload)
            (hnormalized : spec.inputModel decision.arguments = some normalized)
            (last : History) (hlast : later <+: last)
            (hwrite : spec.effect = .externalWrite →
              WriteAuthorized loop context runtimeInput spec) :
            Follows manager claim 0
              (fun normalized final ↦ count < loop.maxToolCalls ∧ ∃ spec,
                Authorized manager claim final
                  ⟨loop, runtimeInput, count + 1, decision, spec, normalized⟩)
              ((recordEvidence context.runId "policy.decision"
                ("policy:" ++ callStepId (count + 1))
                (DynamicToolLoop.allowedFields spec (callStepId (count + 1)) decision.toolName)
                context.leaseToken : Plain Unit).bind fun _ ↦ .done normalized) last := by
          refine follows_bind (follows_widen (follows_recordEvidence hbelongs.runId
            hbelongs.leaseToken (by decide) (fun htype ↦ absurd htype (by decide)) (fun _ ↦ ?_)
            fun htype ↦ absurd htype (by decide))) fun _ final hfinal hrecorded ↦ ?_
          · simp [DynamicToolLoop.allowedFields, Payload.get?, Json.lookup]
          · rw [hbelongs.runId] at hrecorded
            refine follows_done ⟨by omega, spec, ?_⟩
            exact
              { serves := hserves
                input := hinput
                decided := hdecided.mono (hlater.trans (hlast.trans hfinal))
                limit := ⟨by simp, by simp; omega⟩
                registered := hregistered
                normalized := hnormalized
                authority := ⟨context.authority, hbelongs.authority, hallowed, fun hexternal ↦
                  (hwrite (by simpa [ToolCall.isExternal] using hexternal)).authority⟩
                requested := fun hexternal ↦ by
                  have hchecked := hwrite (by simpa [ToolCall.isExternal] using hexternal)
                  exact ⟨hchecked.gate, hchecked.provider⟩
                policy := policyAllowed_of_recorded hrecorded }
        have hdeny (last : History) (hlast : later <+: last) :
            Follows manager claim 0 (fun _ _ ↦ False)
              (loop.denyCall context dispatched (callStepId (count + 1)) decision.toolName
                "invalid_tool_arguments"
                "Planner supplied arguments that do not match the tool schema." : Plain Payload)
              last :=
          follows_denyCall hbelongs _ _ _ (fun action haction ↦ (hknows action haction).mono hlast)
            rfl
        split
        · refine follows_bind (follows_authorizeExternalWrite hbelongs runtimeInput spec _ _ hknows)
            fun _ last hlast hwrite ↦ ?_
          split
          · exact follows_of_never (hdeny last hlast)
          · next normalized hnormalized =>
            exact hrecord normalized hnormalized last hlast fun _ ↦ hwrite
        · next hreadOnly =>
          refine follows_bind (follows_reconcileDispatched hbelongs hknows)
            fun _ last hlast _ ↦ ?_
          split
          · exact follows_of_never (hdeny last hlast)
          · next normalized hnormalized =>
            exact hrecord normalized hnormalized last hlast fun hexternal ↦
              (hreadOnly hexternal).elim

/-! ### Read-only calls -/

theorem follows_failTool (hbelongs : Belongs claim context) {stepId code : String}
    (toolName detail : String) (hwarranted : StepWarranted manager claim history stepId code) :
    Follows manager claim 0 (fun _ _ ↦ False)
      (loop.failTool context stepId toolName code detail : Plain α) history :=
  follows_bind (follows_widen (follows_recordToolFailure hbelongs toolName hwarranted))
    fun _ _ hlater _ ↦ follows_fail hbelongs rfl detail (hwarranted.mono hlater).warranted

theorem follows_decodeToolResultOrFail (hbelongs : Belongs claim context)
    (step : ToolCallRecord) :
    Follows manager claim 0 (fun _ _ ↦ True) (loop.decodeToolResultOrFail context step)
      history := by
  unfold DynamicToolLoop.decodeToolResultOrFail
  split
  · exact follows_done trivial
  · next code message hdecode =>
    obtain ⟨_, hfailure⟩ := decodeToolResult_code hdecode
    obtain ⟨rfl, -⟩ := Failure.runtimeExecution.inj hfailure
    exact follows_failLoopPlainly hbelongs _ rfl
  · next failure hother hdecode =>
    obtain ⟨message, rfl⟩ := decodeToolResult_code hdecode
    exact (hother _ _ rfl).elim

/-- The code that is read off a failed step of a read-only tool. -/
theorem stepWarranted_of_failed {step : ToolCallRecord} (hknows : KnowsStep claim history step)
    (hreadOnly : (∃ loop spec, Serves manager claim loop ∧
        loop.toolRegistry step.toolName = some spec ∧ spec.effect = .readOnly) ∨
      ∃ call, Authorized manager claim history call ∧ call.stepId = step.stepId ∧
        call.isExternal = false) :
    StepWarranted manager claim history step.stepId
      (step.errorCode.filter (!·.isEmpty) |>.getD "tool_execution_failed") := by
  obtain ⟨-, deed, hdeed, hshows⟩ := hknows
  cases hcode : step.errorCode with
  | none => exact stepWarranted_of_none rfl
  | some code =>
    by_cases hempty : code.isEmpty = true
    · rw [Option.filter_some, if_neg (by simp [hempty])]
      exact stepWarranted_of_none rfl
    · rw [Option.filter_some, if_pos (by simp [hempty])]
      intro status _
      exact .inr ⟨deed, hdeed, step.toToolCallRow, hshows, hcode, hreadOnly⟩

theorem follows_resumeReadOnlyStep (hbelongs : Belongs claim context) {call : ToolCall}
    (hauthorized : Authorized manager claim history call) (hreadOnly : call.isExternal = false)
    (toolName : String) {existing : Option ToolCallRecord}
    (hknows : ∀ step, existing = some step →
      step.stepId = call.stepId ∧ KnowsStep claim history step) :
    Follows manager claim 0 (fun _ _ ↦ True)
      (loop.resumeReadOnlyStep context call.stepId toolName existing) history := by
  unfold DynamicToolLoop.resumeReadOnlyStep
  split
  · exact follows_done trivial
  · next step =>
    obtain ⟨hid, hknown⟩ := hknows step rfl
    split
    · split_ifs
      · exact follows_done trivial
      · rw [← hid]
        exact follows_of_never (follows_failTool hbelongs _ _ (stepWarranted_of_failed hknown
          (.inr ⟨call, hauthorized, hid.symm, hreadOnly⟩)))
    · split_ifs
      · exact follows_failLoopPlainly hbelongs _ rfl
      · exact follows_bind (follows_workflowCall ⟨hbelongs.runId, hbelongs.leaseToken, call,
          hauthorized, rfl, hreadOnly⟩) fun _ _ _ _ ↦ follows_done trivial
    · exact follows_done trivial
    · exact follows_done trivial

theorem reportedStatus_toolErrorCode (status : ToolExecutionStatus) :
    reportedStatus (DynamicToolLoop.toolErrorCode status) = none := by
  cases status <;> rfl

theorem follows_runTool (hbelongs : Belongs claim context) {call : ToolCall}
    (hauthorized : Authorized manager claim history call) (hreadOnly : call.isExternal = false)
    (hholds : HoldsStep manager claim history call) (attemptToken : String) :
    Follows manager claim 0 (fun _ later ↦ StepDone claim.run.runId call.stepId later)
      (loop.runTool context call.stepId call.decision.toolName attemptToken call.normalized)
      history := by
  have hfailing (code detail : String) (hplain : reportedStatus code = none) (later : History)
      (hlater : history <+: later) : Follows manager claim 0
        (fun _ last ↦ StepDone claim.run.runId call.stepId last)
        ((WorkflowStore.failStep context.runId call.stepId attemptToken code
          context.leaseToken).bind fun _ ↦
            (loop.failTool context call.stepId call.decision.toolName code detail :
              Plain ToolObservation)) later :=
    follows_bind (follows_workflowCall ⟨hbelongs.runId, hbelongs.leaseToken, hplain, call,
      hauthorized.mono hlater, rfl, hreadOnly⟩) fun _ _ _ _ ↦
        follows_of_never (follows_failTool hbelongs _ _ (stepWarranted_of_none hplain))
  unfold DynamicToolLoop.runTool
  simp only [Program.bind_eq_bind, Program.pure_eq_done, Program.discard_eq_bind,
    Program.bind_bind, Program.done_bind]
  refine follows_tryAsk ⟨call, hreadOnly, rfl, rfl, hholds⟩ (fun _ ↦ rfl) fun answer ↦ ?_
  have hmore : history <+: history ++ [⟨Op.executeTool call.decision.toolName call.normalized,
    answer⟩] := List.prefix_append _ _
  split
  · exact hfailing _ _ rfl _ hmore
  · split
    · refine follows_bind (follows_workflowCall ⟨hbelongs.runId, hbelongs.leaseToken, call,
        hauthorized.mono hmore, rfl, hreadOnly⟩) fun row later _ hdeed ↦ ?_
      rw [hbelongs.runId] at hdeed
      have hdone : StepDone claim.run.runId call.stepId later :=
        .completed attemptToken _ _ row
          (hdeed ▸ List.mem_append_right _ (List.mem_singleton_self _))
      exact follows_bind (follows_widen (follows_recordToolSuccess hbelongs _ _ (.inl hdone)))
        fun _ last hlast _ ↦ follows_done (hdone.mono hlast)
    · exact hfailing _ _ (reportedStatus_toolErrorCode _) _ hmore

theorem follows_executeReadOnlyCall (hbelongs : Belongs claim context) {call : ToolCall}
    (hloop : call.loop = loop) (hauthorized : Authorized manager claim history call)
    (hreadOnly : call.isExternal = false)
    (hobserved : Observed claim.run.runId (call.index - 1) history) :
    Follows manager claim 0 (fun _ later ↦ StepDone claim.run.runId call.stepId later)
      (loop.executeReadOnlyCall context call.stepId call.decision.toolName call.normalized)
      history := by
  subst hloop
  unfold DynamicToolLoop.executeReadOnlyCall
  simp only [Program.bind_eq_bind, Program.pure_eq_done, Program.throw_eq_raise]
  refine follows_bind (follows_widen (follows_getStep hbelongs _))
    fun existing later hlater hknows ↦ ?_
  refine follows_bind (follows_resumeReadOnlyStep hbelongs (hauthorized.mono hlater) hreadOnly _
    hknows) fun _ resumed hresumed _ ↦ ?_
  have hmore := hlater.trans hresumed
  refine follows_bind (follows_workflowCall ⟨hbelongs.runId, hbelongs.leaseToken, call,
    hauthorized.mono hmore, rfl, rfl, rfl, by rw [hreadOnly]; rfl,
    hbelongs.runId ▸ hobserved.mono hmore⟩) fun reply last hlast hdeed ↦ ?_
  rw [hbelongs.runId] at hdeed
  split
  · next houtcome =>
    have hdone : StepDone claim.run.runId call.stepId last :=
      .cached _ _ _ _ reply houtcome (hdeed ▸ List.mem_append_right _ (List.mem_singleton_self _))
    have hrest : Follows manager claim 0
        (fun _ later ↦ StepDone claim.run.runId call.stepId later)
        ((call.loop.decodeToolResultOrFail context
          (ToolCallRecord.of context.runId call.stepId reply.step)).bind fun result ↦
            (recordToolSuccess context call.stepId call.decision.toolName result :
              Plain Unit).bind fun _ ↦ .done (⟨call.stepId, call.decision.toolName,
                call.normalized, result, true⟩ : ToolObservation)) last := by
      refine follows_bind (follows_decodeToolResultOrFail hbelongs _)
        fun result decoded hdecoded _ ↦ ?_
      refine follows_bind (follows_widen (follows_recordToolSuccess hbelongs _ _
        (.inl (hdone.mono hdecoded)))) fun _ final hfinal _ ↦ follows_done ?_
      exact hdone.mono (hdecoded.trans hfinal)
    split_ifs
    · exact follows_raise (excused_of_none rfl)
    · exact hrest
  · exact follows_failLoopPlainly hbelongs _ rfl
  · exact follows_failLoopPlainly hbelongs _ rfl
  · exact follows_failLoopPlainly hbelongs _ rfl
  · exact follows_failLoopPlainly hbelongs _ rfl
  · refine follows_runTool hbelongs (hauthorized.mono (hmore.trans hlast)) hreadOnly ?_ _
    exact ⟨resumed, _, _, reply, by rw [hdeed]; exact List.prefix_refl _, hauthorized.mono hmore⟩
  · exact follows_raise (excused_of_none rfl)

theorem follows_executeCall (hbelongs : Belongs claim context) {call : ToolCall}
    (hloop : call.loop = loop) (hauthorized : Authorized manager claim history call)
    (hobserved : Observed claim.run.runId (call.index - 1) history) :
    Follows manager claim 0 (fun _ later ↦ StepDone claim.run.runId call.stepId later)
      (loop.executeCall context call.decision call.stepId call.normalized) history := by
  have hregistered : loop.toolRegistry call.decision.toolName = some call.spec :=
    hloop ▸ hauthorized.registered
  unfold DynamicToolLoop.executeCall
  rw [hregistered]
  dsimp only
  split_ifs with hexternal
  · subst hloop
    exact follows_executeExternal hbelongs (by simp [ToolCall.isExternal, hexternal]) hauthorized
      hobserved
  · refine follows_widen (follows_executeReadOnlyCall hbelongs hloop hauthorized ?_ hobserved)
    simpa [ToolCall.isExternal] using hexternal

/-! ### Restoring observations -/

theorem follows_decisionPayloadForStep (hbelongs : Belongs claim context) (stepId : String)
    {action : Option ExternalActionRecord}
    (hknows : ∀ known, action = some known → KnowsAction claim history known) :
    Follows manager claim 0 (fun _ _ ↦ True) (loop.decisionPayloadForStep context stepId action)
      history := by
  refine follows_bind (follows_widen follows_listEvents) fun events later hlater _ ↦ ?_
  dsimp only
  split
  · exact follows_done trivial
  · exact follows_of_never (follows_failRestoredStep hbelongs rfl _
      (fun known hknown ↦ (hknows known hknown).mono hlater) rfl)

/-- The tool of a restored call is registered. -/
theorem follows_restoredCall (hbelongs : Belongs claim context) (step : ToolCallRecord)
    {action : Option ExternalActionRecord} (label article : String)
    (hknows : ∀ known, action = some known → KnowsAction claim history known) :
    Follows manager claim 0 (fun found _ ↦ loop.toolRegistry step.toolName = some found.1)
      (loop.restoredCall context step action label article) history := by
  unfold DynamicToolLoop.restoredCall
  simp only [Program.bind_eq_bind, Program.pure_eq_done]
  refine follows_bind (follows_decisionPayloadForStep hbelongs _ hknows)
    fun payload later hlater _ ↦ ?_
  have hrefuse (code detail : String) (hplain : reportedStatus code = none) :
      Follows manager claim 0 (fun found _ ↦ loop.toolRegistry step.toolName = some found.1)
        (loop.failRestoredStep context action code detail : Plain (ToolSpec × Payload)) later :=
    follows_of_never (follows_failRestoredStep hbelongs rfl _
      (fun known hknown ↦ (hknows known hknown).mono hlater) hplain)
  split
  · exact hrefuse _ _ rfl
  · next decision _ =>
    split
    · exact hrefuse _ _ rfl
    · next spec hregistered =>
      split
      · exact hrefuse _ _ rfl
      · split_ifs with hmismatch
        · exact hrefuse _ _ rfl
        · rw [not_or, not_not, not_not] at hmismatch
          exact follows_done (hmismatch.1 ▸ hregistered)
  · exact hrefuse _ _ rfl

theorem follows_restoreCompletedStep (hbelongs : Belongs claim context) {step : ToolCallRecord}
    (hstep : KnowsStep claim history step) (hcompleted : step.status = .completed)
    {action : Option ExternalActionRecord}
    (hknows : ∀ known, action = some known → KnowsAction claim history known) :
    Follows manager claim 0 (fun _ _ ↦ True) (loop.restoreCompletedStep context step action)
      history := by
  unfold DynamicToolLoop.restoreCompletedStep
  simp only [Program.bind_eq_bind, Program.pure_eq_done]
  refine follows_bind (follows_restoredCall hbelongs step _ _ hknows) fun found later hlater _ ↦ ?_
  have hdone : StepDone claim.run.runId step.stepId history := by
    obtain ⟨-, deed, hdeed, hshows⟩ := hstep
    exact .seen deed _ hdeed hshows hcompleted
  have hrest : Follows manager claim 0 (fun _ _ ↦ True)
      ((loop.decodeToolResultOrFail context step).bind fun result ↦
        (recordToolSuccess context step.stepId step.toolName result : Plain Unit).bind fun _ ↦
          .done (⟨step.stepId, step.toolName, found.2, result, true⟩ : ToolObservation)) later :=
    follows_bind (follows_decodeToolResultOrFail hbelongs _) fun _ _ hdecoded _ ↦
      follows_bind (follows_widen (follows_recordToolSuccess hbelongs _ _
        (.inl (hdone.mono (hlater.trans hdecoded))))) fun _ _ _ _ ↦ follows_done trivial
  split_ifs
  · exact follows_mono (follows_restoreSuccess hbelongs rfl (hstep.mono hlater))
      fun _ _ _ _ ↦ trivial
  · exact follows_bind_never (follows_failRestoredStep hbelongs rfl _
      (fun known hknown ↦ (hknows known hknown).mono hlater) rfl)
  · exact hrest

theorem follows_restoreFailedStep (hbelongs : Belongs claim context)
    (hserves : Serves manager claim loop) {step : ToolCallRecord}
    (hstep : KnowsStep claim history step) {action : Option ExternalActionRecord}
    (hknows : ∀ known, action = some known → KnowsAction claim history known) :
    Follows manager claim 0 (fun _ _ ↦ False)
      (loop.restoreFailedStep context step action : Plain α) history := by
  unfold DynamicToolLoop.restoreFailedStep
  simp only [Program.bind_eq_bind]
  refine follows_bind (follows_restoredCall hbelongs step _ _ hknows)
    fun found later hlater hregistered ↦ ?_
  split_ifs with hexternal
  · exact follows_restoreFailure hbelongs rfl _
  · exact follows_bind_never (follows_failRestoredStep hbelongs rfl _
      (fun known hknown ↦ (hknows known hknown).mono hlater) rfl)
  · refine follows_failTool hbelongs _ _ (stepWarranted_of_failed (hstep.mono hlater)
      (.inl ⟨loop, found.1, hserves, hregistered, ?_⟩))
    cases heffect : found.1.effect with
    | readOnly => rfl
    | externalWrite => exact (hexternal heffect).elim

/-- One observation for each completed step. -/
theorem follows_restoreSteps (hbelongs : Belongs claim context)
    (hserves : Serves manager claim loop) (steps : List ToolCallRecord)
    (hsteps : ∀ step ∈ steps, KnowsStep claim history step) :
    Follows manager claim 0
      (fun observations _ ↦ observations.length =
        steps.countP fun step ↦ step.status == .completed)
      (loop.restoreSteps context steps) history := by
  induction steps generalizing history with
  | nil => exact follows_done rfl
  | cons step rest ih =>
    have hrest (later : History) (hlater : history <+: later) : Follows manager claim 0
        (fun observations _ ↦ observations.length =
          rest.countP fun step ↦ step.status == .completed)
        (loop.restoreSteps context rest) later :=
      ih fun other hother ↦ (hsteps other (List.mem_cons_of_mem _ hother)).mono hlater
    have hstep := hsteps step List.mem_cons_self
    unfold DynamicToolLoop.restoreSteps
    simp only [Program.bind_eq_bind, Program.pure_eq_done]
    refine follows_bind (follows_widen (follows_getExternalAction hbelongs _))
      fun action later hlater haction ↦ ?_
    have hknows (known : ExternalActionRecord) (hknown : action = some known) :
        KnowsAction claim later known := (haction known hknown).2
    have hskipped (hopen : step.status ≠ .completed) : Follows manager claim 0
        (fun observations _ ↦ observations.length =
          (step :: rest).countP fun step ↦ step.status == .completed)
        (loop.restoreSteps context rest) later := by
      refine follows_mono (hrest later hlater) fun observations _ _ hlength ↦ ?_
      rw [List.countP_cons_of_neg (by simpa using hopen)]
      exact hlength
    split
    · next hcompleted =>
      refine follows_bind (follows_restoreCompletedStep hbelongs
        (hstep.mono hlater) hcompleted hknows)
        fun observation restored hrestored _ ↦ ?_
      refine follows_bind (hrest restored (hlater.trans hrestored)) fun observations _ _ hlength ↦
        follows_done ?_
      rw [List.countP_cons_of_pos (by simp [hcompleted]), List.length_cons, hlength]
    · next hfailed =>
      split_ifs
      · exact hskipped (by rw [hfailed]; decide)
      · exact follows_of_never (follows_restoreFailedStep hbelongs hserves (hstep.mono hlater)
          hknows)
    · next hrunning => exact hskipped (by rw [hrunning]; decide)
    · next hpending => exact hskipped (by rw [hpending]; decide)

theorem follows_listSteps (hbelongs : Belongs claim context) :
    Follows manager claim 0
      (fun steps later ↦ ∃ rows : List (String × ToolCallRow), steps = rows.map (fun entry ↦
          ToolCallRecord.of claim.run.runId entry.1 entry.2) ∧
        later = history ++ [Deed.workflow (.listSteps claim.run.runId) (.ok rows)])
      (WorkflowStore.listSteps context.runId) history := by
  unfold WorkflowStore.listSteps
  rw [hbelongs.runId]
  exact follows_bind (follows_workflowCall trivial) fun rows later _ hdeed ↦
    follows_done ⟨rows, rfl, hdeed⟩

theorem follows_restoreObservations (hbelongs : Belongs claim context)
    (hserves : Serves manager claim loop) :
    Follows manager claim 0
      (fun observations later ↦ Observed claim.run.runId observations.length later)
      (loop.restoreObservations context) history := by
  unfold DynamicToolLoop.restoreObservations
  refine follows_bind (follows_widen (follows_listSteps hbelongs)) fun steps later _ hlisted ↦ ?_
  obtain ⟨rows, rfl, rfl⟩ := hlisted
  refine follows_mono (follows_restoreSteps hbelongs hserves _ fun step hstep ↦ ?_)
    fun observations last hlast hlength ↦ ?_
  · obtain ⟨entry, hentry, rfl⟩ := List.mem_map.mp ((List.mem_insertionSort _).mp hstep)
    exact ⟨rfl, _, List.mem_append_right _ (List.mem_singleton_self _), .listed rows hentry⟩
  · refine ⟨rows, hlast.subset (List.mem_append_right _ (List.mem_singleton_self _)),
      fun index hbase hindex ↦ ?_⟩
    rw [(List.perm_insertionSort _ _).countP_eq, List.countP_map] at hlength
    have hcount : observations.length = completedCount rows := hlength
    omega

/-! ### The loop -/

/-- The loop may end: the decision after the observed steps is no tool call. -/
def MayEnd (runId : String) (history : History) : Prop :=
  ∃ count decision, Observed runId count history ∧
    Decided runId (count + 1) decision history ∧ ∀ call, decision ≠ .callTool call

theorem MayEnd.mono {runId : String} {later : History} (hend : MayEnd runId history)
    (hlater : history <+: later) : MayEnd runId later := by
  obtain ⟨count, decision, hobserved, hdecided, hother⟩ := hend
  exact ⟨count, decision, hobserved.mono hlater, hdecided.mono hlater, hother⟩

theorem follows_completeLoop (hbelongs : Belongs claim context) (result : DynamicLoopResult)
    (blockedCode : Option String) (hend : MayEnd claim.run.runId history) :
    Follows manager claim 0 (fun _ later ↦ Concluded claim.run.runId later)
      (DynamicToolLoop.completeLoop context result blockedCode) history := by
  unfold DynamicToolLoop.completeLoop
  simp only [Program.discard_eq_bind, Program.bind_eq_bind]
  refine follows_bind (follows_widen (follows_recordEvidence hbelongs.runId hbelongs.leaseToken
    (by decide) (fun htype ↦ absurd htype (by decide)) (fun htype ↦ absurd htype (by decide))
    fun htype ↦ absurd htype (by decide))) fun _ later hlater _ ↦ ?_
  have hready := hend.mono hlater
  rw [← hbelongs.runId] at hready
  split
  · refine follows_bind (follows_workflowCall ⟨hbelongs.runId, hbelongs.leaseToken, hready⟩)
      fun row last _ hdeed ↦ follows_done ?_
    rw [hbelongs.runId] at hdeed
    exact .ready _ _ row (hdeed ▸ List.mem_append_right _ (List.mem_singleton_self _))
  · refine follows_bind (follows_workflowCall ⟨hbelongs.runId, hbelongs.leaseToken, hready⟩)
      fun row last _ hdeed ↦ follows_done ?_
    rw [hbelongs.runId] at hdeed
    exact .blocked _ _ _ row (hdeed ▸ List.mem_append_right _ (List.mem_singleton_self _))

theorem follows_finishLoop (hbelongs : Belongs claim context) (decision : FinishDecision)
    (observations : List ToolObservation) (hend : MayEnd claim.run.runId history) :
    Follows manager claim 0 (fun _ later ↦ Concluded claim.run.runId later)
      (loop.finishLoop context decision observations) history := by
  unfold DynamicToolLoop.finishLoop
  simp only [Program.bind_eq_bind, Program.pure_eq_done, Program.throw_eq_raise]
  refine follows_tryAsk trivial (fun _ ↦ rfl) fun answer ↦ ?_
  split
  · next failure =>
    split_ifs
    · exact follows_failLoopPlainly hbelongs _ rfl
    · refine follows_raise fun code hcode status _ ↦ ?_
      exact .evaluator decision observations failure
        (List.mem_append_right _ (List.mem_singleton_self _)) hcode
  · split
    · exact follows_failLoopPlainly hbelongs _ rfl
    · exact follows_bind (follows_completeLoop hbelongs _ _ (hend.mono (List.prefix_append _ _)))
        fun _ _ _ hconcluded ↦ follows_done hconcluded

theorem follows_clarifyLoop (hbelongs : Belongs claim context)
    (decision : RequestClarificationDecision) (observations : List ToolObservation)
    (hend : MayEnd claim.run.runId history) :
    Follows manager claim 0 (fun _ later ↦ Concluded claim.run.runId later)
      (DynamicToolLoop.clarifyLoop context decision observations) history :=
  follows_bind (follows_completeLoop hbelongs _ _ hend) fun _ _ _ hconcluded ↦
    follows_done hconcluded

/-- Each round consults the planner at most once and observes one more completed step, or it is the
last. -/
theorem follows_iterate (hbelongs : Belongs claim context) (hserves : Serves manager claim loop)
    {runtimeInput : Payload} (hinput : LoopInput manager claim runtimeInput) (state : Payload)
    (rounds : Nat) (observations : List ToolObservation)
    (hobserved : Observed claim.run.runId observations.length history)
    (hcount : consultations history ≤ observations.length)
    (hlimit : consultations history ≤ loop.maxToolCalls) :
    Follows manager claim rounds (fun _ later ↦ Concluded claim.run.runId later)
      (loop.iterate context runtimeInput state rounds observations) history := by
  induction rounds generalizing observations history with
  | zero => exact follows_unfollowed
  | succ rounds ih =>
    unfold DynamicToolLoop.iterate
    simp only [Program.bind_eq_bind]
    rw [Nat.add_comm rounds 1]
    refine follows_bind_asking (follows_widen (follows_decisionForIndex hbelongs hserves
      runtimeInput state observations _ hlimit)) fun decision later hlater hdecided hasked ↦ ?_
    have hmore := hobserved.mono hlater
    split
    · next clarification =>
      exact follows_more (follows_widen (follows_clarifyLoop hbelongs clarification observations
        ⟨_, _, hmore, hdecided, fun _ ↦ by simp⟩)) (Nat.zero_le _)
    · next finish =>
      exact follows_more (follows_widen (follows_finishLoop hbelongs finish observations
        ⟨_, _, hmore, hdecided, fun _ ↦ by simp⟩)) (Nat.zero_le _)
    · next call =>
      refine follows_bind (follows_widen (follows_quietly (follows_authorizeCall hbelongs hserves
        hinput hdecided))) fun normalized allowed hallowed hauthorized ↦ ?_
      obtain ⟨⟨hroom, spec, hauthorized⟩, hstill⟩ := hauthorized
      refine follows_bind (follows_quietly (follows_executeCall hbelongs rfl hauthorized
        (hmore.mono hallowed))) fun observation executed hexecuted hdone ↦ ?_
      obtain ⟨hdone, hquiet⟩ := hdone
      have hlength : (observations ++ [observation]).length = observations.length + 1 := by simp
      refine ih _ ?_ (by omega) (by omega)
      rw [hlength]
      exact ((hmore.mono hallowed).mono hexecuted).succ hdone

theorem follows_replayExecution {execution : ExecutionRow} {deed : Deed} (hdeed : deed ∈ history)
    (hshows : ShowsExecution claim.run.runId execution deed)
    (hterminal : execution.status.isTerminal = true) :
    Follows manager claim 0 (fun _ later ↦ Concluded claim.run.runId later)
      (DynamicToolLoop.replayExecution execution) history := by
  unfold DynamicToolLoop.replayExecution
  split
  · next hfailed =>
    refine follows_raise (excused_of_code fun status hstatus ↦ ?_)
    cases hcode : execution.errorCode with
    | none => rw [hcode] at hstatus; cases hstatus
    | some code =>
      rw [hcode, Option.filter_some] at hstatus
      rw [Option.filter_some]
      split_ifs at hstatus ⊢
      · exact .execution deed execution hdeed hshows hfailed hcode
      · cases hstatus
  · next hother =>
    split
    · exact follows_raise (excused_of_code (warranted_of_none rfl))
    · split
      · refine follows_done (.seen deed execution hdeed hshows ?_)
        cases hstatus : execution.status with
        | ready => rfl
        | blocked => rfl
        | failed => exact (hother hstatus).elim
        | pending => rw [hstatus] at hterminal; cases hterminal
        | running => rw [hstatus] at hterminal; cases hterminal
      · exact follows_raise (excused_of_code (warranted_of_none rfl))

theorem follows_resumeExecution (hbelongs : Belongs claim context)
    (hserves : Serves manager claim loop) {runtimeInput : Payload}
    (hinput : LoopInput manager claim runtimeInput) (state : Payload) {execution : ExecutionRow}
    {deed : Deed} (hdeed : deed ∈ history) (hshows : ShowsExecution claim.run.runId execution deed)
    (hunasked : consultations history = 0) :
    Follows manager claim loop.rounds (fun _ later ↦ Concluded claim.run.runId later)
      (loop.resumeExecution context runtimeInput state execution) history := by
  have hresume (later : History) (hnone : consultations later = 0) :
      Follows manager claim loop.rounds (fun _ later ↦ Concluded claim.run.runId later)
        ((loop.restoreObservations context : Runtime (List ToolObservation)).bind fun observations ↦
          loop.iterate context runtimeInput state loop.rounds observations) later := by
    refine follows_bind (follows_widen (follows_quietly (follows_restoreObservations hbelongs
      hserves))) fun observations restored _ hrestored ↦ ?_
    obtain ⟨hobserved, hquiet⟩ := hrestored
    exact follows_iterate hbelongs hserves hinput state _ _ hobserved (by omega) (by omega)
  unfold DynamicToolLoop.resumeExecution
  simp only [Program.bind_eq_bind, Program.discard_eq_bind]
  split_ifs with hterminal hpending
  · exact follows_more (follows_widen (follows_replayExecution hdeed hshows hterminal))
      (Nat.zero_le _)
  · simp only [Program.bind_bind, Program.done_bind]
    refine follows_bind (follows_widen (follows_quietly (follows_workflowCall
      ⟨hbelongs.runId, hbelongs.leaseToken⟩))) fun _ later _ hmarked ↦ ?_
    exact hresume later (by have := hmarked.2; omega)
  · exact hresume history hunasked

theorem follows_executeImpl (hbelongs : Belongs claim context)
    (hserves : Serves manager claim loop) {runtimeInput : Payload}
    (hinput : LoopInput manager claim runtimeInput) (state : Payload)
    (hunasked : consultations history = 0) :
    Follows manager claim loop.rounds (fun _ later ↦ Concluded claim.run.runId later)
      (loop.executeImpl context runtimeInput state) history := by
  unfold DynamicToolLoop.executeImpl
  simp only [Program.bind_eq_bind, Program.throw_eq_raise]
  refine follows_bind (follows_widen (follows_quietly (follows_workflowCall
    ⟨hbelongs.runId, hbelongs.leaseToken⟩))) fun reply later _ hclaimed ↦ ?_
  obtain ⟨hdeed, hcount⟩ := hclaimed
  rw [hbelongs.runId] at hdeed
  have hshown : Deed.workflow (.createOrGetExecution claim.run.runId loop.workflowType
      (loop.executionHash runtimeInput state) context.leaseToken) (.ok reply) ∈ later :=
    hdeed ▸ List.mem_append_right _ (List.mem_singleton_self _)
  split_ifs
  · refine follows_bind (follows_widen (follows_reconcileRun hbelongs rfl _)) fun _ _ _ _ ↦ ?_
    exact follows_raise (excused_of_code (warranted_of_none rfl))
  · refine follows_try_quietly (follows_widen (follows_widen (follows_mirrorEvidence context)))
      (fun _ last hlast _ hquiet ↦ ?_) fun failure last hlast hexcused hquiet ↦ ?_
    · exact follows_resumeExecution hbelongs hserves hinput state (hlast.subset hshown)
        (.claimed _ _ _ reply rfl) (by omega)
    · dsimp only
      refine follows_more (follows_bind (follows_widen (follows_reconcileRun hbelongs rfl _))
        fun _ final hfinal _ ↦ follows_raise (hexcused.mono hfinal)) (Nat.zero_le _)

/-- The safety net of `execute` keeps to the conduct as well. -/
theorem follows_executeLoop (hbelongs : Belongs claim context)
    (hserves : Serves manager claim loop) {runtimeInput : Payload}
    (hinput : LoopInput manager claim runtimeInput) (state : Payload)
    (hunasked : consultations history = 0) :
    Follows manager claim loop.rounds (fun _ later ↦ Concluded claim.run.runId later)
      (loop.execute context runtimeInput state) history := by
  refine follows_handle (follows_executeImpl hbelongs hserves hinput state hunasked)
    fun failure later _ hexcused ↦ ?_
  simp only [Program.bind_eq_bind, Program.throw_eq_raise]
  split_ifs
  · exact follows_raise hexcused
  · exact follows_bind (follows_widen (follows_reconcileRun hbelongs rfl _))
      fun _ last hlast _ ↦ follows_raise (hexcused.mono hlast)

end Loop

/-! ### Governed memory -/

section Memory

variable {manager : RuntimeManager} {claim : RunLeaseClaim} {history : History}
  {context : RuntimeExecutionContext}

theorem follows_requireLeaseToken :
    Follows manager claim 0 (fun _ _ ↦ True) (GovernedMemory.requireLeaseToken context)
      history := by
  have hlost : Follows manager claim 0 (fun _ _ ↦ True)
      (GovernedMemory.requireLeaseToken.lost context) history :=
    follows_raise (excused_of_none rfl)
  unfold GovernedMemory.requireLeaseToken
  split
  · split_ifs
    · exact hlost
    · exact follows_done trivial
  · exact hlost

theorem follows_ensureRunEvent (eventType : String) (payload : Payload) (identityKey : String)
    (identityValue : Json) :
    Follows manager claim 0 (fun _ _ ↦ True)
      (GovernedMemory.ensureRunEvent context eventType payload identityKey identityValue)
      history := by
  refine follows_bind (follows_runCall trivial) fun events later _ _ ↦ ?_
  simp only [Program.pure_eq_done, Program.discard_eq_bind, Program.bind_eq_bind]
  split_ifs
  · exact follows_done trivial
  · refine follows_bind follows_requireLeaseToken fun _ _ _ _ ↦ ?_
    exact follows_bind (follows_runCall trivial) fun _ _ _ _ ↦ follows_done trivial

theorem follows_retrieve (domainId : String) (allowedKeys : List String) :
    Follows manager claim 0 (fun _ _ ↦ True)
      (GovernedMemory.retrieve context domainId allowedKeys) history := by
  have hrest : Follows manager claim 0 (fun _ _ ↦ True)
      ((GovernedMemory.requireLeaseToken context).bind fun token ↦
        (MemoryStore.getOrCreateRunSnapshotForRun token context.runId
          (GovernedMemory.memoryScope context domainId)
          (allowedKeys.dedup.insertionSort (· ≤ ·))).bind fun snapshot ↦
            (GovernedMemory.ensureRunEvent context "memory.retrieved"
              (GovernedMemory.retrievedPayload snapshot) "snapshot_id"
              (.str snapshot.runId)).bind fun _ ↦ .done snapshot) history := by
    refine follows_bind follows_requireLeaseToken fun _ _ _ _ ↦ ?_
    refine follows_bind follows_memoryCall fun _ _ _ _ ↦ ?_
    exact follows_bind (follows_ensureRunEvent _ _ _ _) fun _ _ _ _ ↦ follows_done trivial
  unfold GovernedMemory.retrieve
  simp only [Program.bind_eq_bind, Program.pure_eq_done]
  split_ifs
  · exact follows_bind_never (follows_raise (excused_of_code (warranted_of_none rfl)))
  · exact hrest

theorem follows_mirrorMutations (audit : List (Nat × MemoryEventRow))
    (existing : List (String × Json)) :
    Follows manager claim 0 (fun _ _ ↦ True)
      (GovernedMemory.mirrorEvents context audit existing) history := by
  induction audit generalizing existing history with
  | nil => exact follows_done trivial
  | cons entry rest ih =>
    unfold GovernedMemory.mirrorEvents
    simp only [Program.bind_eq_bind, Program.discard_eq_bind]
    split_ifs
    · exact ih _
    · refine follows_bind follows_requireLeaseToken fun _ _ _ _ ↦ ?_
      simp only [Program.bind_bind, Program.done_bind]
      exact follows_bind (follows_runCall trivial) fun _ _ _ _ ↦ ih _

theorem follows_upsertAll (token domainId threadId : String) (writes : List MemoryWrite) :
    Follows manager claim 0 (fun _ _ ↦ True)
      (GovernedMemory.upsertAll context token domainId threadId writes) history := by
  induction writes generalizing history with
  | nil => exact follows_done trivial
  | cons write rest ih =>
    unfold GovernedMemory.upsertAll
    simp only [Program.bind_eq_bind, Program.discard_eq_bind, Program.bind_bind,
      Program.done_bind]
    exact follows_bind follows_memoryCall fun _ _ _ _ ↦ ih

theorem follows_mirrorMutationEvents :
    Follows manager claim 0 (fun _ _ ↦ True) (GovernedMemory.mirrorMutationEvents context)
      history :=
  follows_bind (follows_runCall trivial) fun _ _ _ _ ↦
    follows_bind follows_memoryCall fun _ _ _ _ ↦ follows_mirrorMutations _ _

theorem follows_remember (domainId threadId : String) (writes : List MemoryWrite) :
    Follows manager claim 0 (fun _ _ ↦ True)
      (GovernedMemory.remember context domainId threadId writes) history := by
  have hrest : Follows manager claim 0 (fun _ _ ↦ True)
      ((GovernedMemory.requireLeaseToken context).bind fun token ↦
        (GovernedMemory.upsertAll context token domainId threadId writes).bind fun _ ↦
          GovernedMemory.mirrorMutationEvents context) history := by
    refine follows_bind follows_requireLeaseToken fun _ _ _ _ ↦ ?_
    exact follows_bind (follows_upsertAll _ _ _ _) fun _ _ _ _ ↦ follows_mirrorMutationEvents
  unfold GovernedMemory.remember
  simp only [Program.bind_eq_bind, Program.pure_eq_done]
  split_ifs
  · exact follows_done trivial
  · exact follows_bind_never (follows_raise (excused_of_code (warranted_of_none rfl)))
  · exact hrest

end Memory

/-! ### The runtime and the manager -/

section Attempt

variable {manager : RuntimeManager} {claim : RunLeaseClaim} {history : History}
  {context : RuntimeExecutionContext} {registration : RuntimeRegistration}

/-- What the runtime's own code raises. -/
theorem excused_of_foreign (hregistration : manager.registrationFor claim.run = .ok registration)
    {failure : Failure} (hforeign : ∀ code, failure.code = some code → Foreign registration code) :
    Excused manager claim failure history :=
  fun code hcode _ _ ↦ .runtime registration hregistration (hforeign code hcode)

theorem follows_retrieveMemories
    (hregistration : manager.registrationFor claim.run = .ok registration) (state : RuntimeState) :
    Follows manager claim 0 (fun _ _ ↦ True) (registration.retrieveMemories state context)
      history := by
  unfold RuntimeRegistration.retrieveMemories
  split
  · exact follows_done trivial
  · next policy hpolicy =>
    refine follows_bind (follows_retrieve _ _) fun snapshot later _ _ ↦ ?_
    refine follows_ofExcept (fun _ _ ↦ trivial) fun failure hfailure ↦ ?_
    exact excused_of_foreign hregistration fun code hcode ↦
      ⟨failure, hcode, .inr (.inr (.inr ⟨policy, state, snapshot.memories, hpolicy, hfailure⟩))⟩

theorem follows_rememberFor (runtimeInput : Payload) :
    Follows manager claim 0 (fun _ _ ↦ True) (registration.remember runtimeInput context)
      history := by
  unfold RuntimeRegistration.remember
  split
  · exact follows_done trivial
  · exact follows_remember _ _ _

theorem follows_executeRuntime (hbelongs : Belongs claim context)
    (hregistration : manager.registrationFor claim.run = .ok registration) (state : RuntimeState)
    {runtimeInput : Payload} (hinput : registration.parseInput claim.run.input = .ok runtimeInput)
    (hunasked : consultations history = 0) :
    Follows manager claim registration.loop.rounds
      (fun _ later ↦ Concluded claim.run.runId later)
      (registration.execute state runtimeInput context) history := by
  unfold RuntimeRegistration.execute
  simp only [Program.bind_eq_bind, Program.pure_eq_done]
  refine follows_bind (follows_widen (follows_widen (follows_quietly
    (follows_retrieveMemories hregistration state)))) fun recalled later _ hrecalled ↦ ?_
  have hquiet := hrecalled.2
  refine follows_bind (follows_computed fun failure hfailure ↦ ?_)
    fun prepared last hlast hprepared ↦ ?_
  · exact excused_of_foreign hregistration fun code hcode ↦
      ⟨failure, hcode, .inr (.inl ⟨recalled, runtimeInput, hfailure⟩)⟩
  · obtain ⟨rfl, hprepare⟩ := hprepared
    obtain ⟨input, loopState⟩ := prepared
    have hloop : LoopInput manager claim input :=
      ⟨registration, runtimeInput, recalled, loopState, hregistration, hinput, hprepare⟩
    refine follows_bind_quiet (follows_executeLoop hbelongs ⟨registration, hregistration, rfl⟩
      hloop loopState (by omega)) fun result ended _ hconcluded ↦ ?_
    refine follows_bind (follows_widen (follows_widen (follows_rememberFor runtimeInput)))
      fun _ remembered hremembered _ ↦ ?_
    refine follows_bind (follows_computed fun failure hfailure ↦ ?_)
      fun response final _ hresponse ↦ ?_
    · exact excused_of_foreign hregistration fun code hcode ↦
        ⟨failure, hcode, .inr (.inr (.inl ⟨recalled, runtimeInput, result, hfailure⟩))⟩
    · obtain ⟨rfl, -⟩ := hresponse
      exact follows_done (hconcluded.mono hremembered)

theorem follows_observed {budget : Nat} {runtime : Runtime RuntimeResponse}
    {good : RuntimeResponse → History → Prop}
    (hfollows : Follows manager claim budget good runtime history)
    (hmono : ∀ response later last, later <+: last → good response later → good response last) :
    Follows manager claim budget good (RuntimeManager.observed runtime) history := by
  unfold RuntimeManager.observed
  simp only [Program.bind_eq_bind, Program.discard_eq_bind, Program.pure_eq_done,
    Program.throw_eq_raise]
  refine follows_try (follows_widen hfollows) (fun response later _ hgood ↦ ?_)
    fun failure later _ hexcused ↦ ?_
  · simp only [Program.bind_bind, Program.done_bind]
    refine follows_bind (follows_noted trivial (fun _ ↦ rfl) fun _ hpossible ↦ hpossible)
      fun _ last hlast _ ↦ ?_
    exact follows_done (hmono response later last hlast hgood)
  · simp only [Program.bind_bind, Program.done_bind]
    refine follows_bind (follows_noted trivial (fun _ ↦ rfl) fun _ hpossible ↦ hpossible)
      fun _ last hlast _ ↦ ?_
    exact follows_raise (hexcused.mono hlast)

theorem follows_requireRun (runId : String) :
    Follows manager claim 0 (fun _ _ ↦ True) (RuntimeManager.requireRun runId) history := by
  refine follows_bind (follows_runCall trivial) fun found _ _ _ ↦ ?_
  split
  · exact follows_done trivial
  · exact follows_raise (excused_of_none rfl)

theorem follows_markCancelled (run : RunRecord) (reason leaseToken : String) :
    Follows manager claim 0 (fun _ _ ↦ True)
      (RuntimeManager.markCancelled run reason leaseToken) history :=
  follows_bind (follows_runCall trivial) fun _ _ _ _ ↦ follows_done trivial

theorem follows_assertReferencedRunsVisible (tenantId : String) (runIds : List String) :
    Follows manager claim 0 (fun _ _ ↦ True)
      (RuntimeManager.assertReferencedRunsVisible tenantId runIds) history := by
  induction runIds generalizing history with
  | nil => exact follows_done trivial
  | cons runId rest ih =>
    refine follows_bind (follows_runCall trivial) fun found _ _ _ ↦ ?_
    split
    · exact follows_raise (excused_of_none rfl)
    · exact ih

theorem validateRuntimeState_code {state : RuntimeState} {threadId boundary : String}
    {failure : Failure}
    (hvalidate : validateRuntimeState registration state threadId boundary = .error failure) :
    failure.code = none := by
  unfold validateRuntimeState at hvalidate
  split at hvalidate
  · exact Except.error.inj hvalidate ▸ rfl
  · split_ifs at hvalidate
    exact Except.error.inj hvalidate ▸ rfl

theorem executionAuthority_code {run : RunRecord} {failure : Failure}
    (hauthority : executionAuthority run = .error failure) : failure.code = none := by
  unfold executionAuthority at hauthority
  split at hauthority
  · cases hauthority
  · split_ifs at hauthority
    exact Except.error.inj hauthority ▸ rfl

theorem follows_runRuntime (hregistration : manager.registrationFor claim.run = .ok registration)
    (checkpoint : ThreadStateSnapshot) (hunasked : consultations history = 0) :
    Follows manager claim registration.loop.rounds
      (fun _ later ↦ Concluded claim.run.runId later)
      (RuntimeManager.runRuntime claim registration checkpoint) history := by
  unfold RuntimeManager.runRuntime
  simp only [Program.bind_eq_bind, Program.pure_eq_done, Program.discard_eq_bind,
    Program.bind_bind, Program.done_bind]
  refine follows_bind (follows_computed fun failure hfailure ↦
    excused_of_none (validateRuntimeState_code hfailure)) fun state later _ hstate ↦ ?_
  obtain ⟨rfl, -⟩ := hstate
  refine follows_bind (follows_quietly (follows_runCall trivial)) fun _ loaded _ hloaded ↦ ?_
  have hquiet := hloaded.2
  refine follows_bind (follows_computed fun failure hfailure ↦ ?_)
    fun runtimeInput parsed _ hparsed ↦ ?_
  · exact excused_of_foreign hregistration fun code hcode ↦
      ⟨failure, hcode, .inl ⟨claim.run.input, hfailure⟩⟩
  · obtain ⟨rfl, hinput⟩ := hparsed
    refine follows_bind (follows_quietly (follows_assertReferencedRunsVisible _ _))
      fun _ visible _ hvisible ↦ ?_
    have hstill := hvisible.2
    refine follows_bind (follows_computed fun failure hfailure ↦
      excused_of_none (executionAuthority_code hfailure))
        fun authority authorized _ hauthorized ↦ ?_
    obtain ⟨rfl, hauthority⟩ := hauthorized
    have hbelongs : Belongs claim
        { runId := claim.run.runId
          threadId := claim.run.threadId
          recoveredAfterRestart := claim.recoveryReason.isSome
          authority := authority
          leaseToken := some claim.leaseToken } := ⟨rfl, rfl, hauthority⟩
    refine follows_bind_quiet (follows_observed (follows_executeRuntime hbelongs hregistration state
      hinput (by omega)) fun _ _ _ hlast hconcluded ↦ hconcluded.mono hlast)
      fun response ended _ hconcluded ↦ ?_
    refine follows_bind (follows_computed fun failure hfailure ↦
      excused_of_none (validateRuntimeState_code hfailure)) fun result last _ hresult ↦ ?_
    obtain ⟨rfl, -⟩ := hresult
    exact follows_done hconcluded

/-! ### Commits -/

theorem registrationFor_code {run : RunRecord} {failure : Failure}
    (hregistration : manager.registrationFor run = .error failure) : failure.code = none := by
  unfold RuntimeManager.registrationFor at hregistration
  split at hregistration
  · exact Except.error.inj hregistration ▸ rfl
  · split_ifs at hregistration
    exact Except.error.inj hregistration ▸ rfl

theorem follows_leaseLost :
    Follows manager claim 0 (fun _ _ ↦ True) leaseLost history :=
  follows_noted trivial (fun _ ↦ rfl) fun _ hpossible ↦ hpossible

theorem follows_refuseStaleCheckpoint (precedence : Bool) :
    Follows manager claim 0 (fun _ _ ↦ True)
      (RuntimeManager.refuseStaleCheckpoint claim precedence) history := by
  unfold RuntimeManager.refuseStaleCheckpoint
  simp only [Program.bind_eq_bind, Program.discard_eq_bind, Program.pure_eq_done]
  split_ifs
  · exact follows_bind (follows_runCall trivial) fun _ _ _ _ ↦ follows_done trivial
  · refine follows_bind (follows_runCall trivial) fun reply _ _ _ ↦ ?_
    split_ifs
    · exact follows_bind (follows_requireRun _) fun _ _ _ _ ↦ follows_markCancelled _ _ _
    · exact follows_done trivial

/-- The most often that the runtime of a Run may consult its planner, as far as it is followed. -/
def roundsFor (manager : RuntimeManager) (run : RunRecord) : Nat :=
  match manager.registrationFor run with
  | .ok registration => registration.loop.rounds
  | .error _ => 0

theorem follows_executeRun (precedence : Bool) (hunasked : consultations history = 0) :
    Follows manager claim (roundsFor manager claim.run)
      (fun ended later ↦ ended.isSome = true → Concluded claim.run.runId later)
      (manager.executeRun claim precedence) history := by
  unfold RuntimeManager.executeRun
  simp only [Program.bind_eq_bind, Program.pure_eq_done, Program.throw_eq_raise]
  refine follows_bind (follows_computed fun failure hfailure ↦
    excused_of_none (registrationFor_code hfailure)) fun registration later _ hregistered ↦ ?_
  obtain ⟨rfl, hregistration⟩ := hregistered
  have hrounds : roundsFor manager claim.run = registration.loop.rounds := by
    unfold roundsFor
    rw [hregistration]
  rw [hrounds]
  refine follows_try_quietly (follows_runCall trivial) (fun checkpoint loaded _ _ hquiet ↦ ?_)
    fun failure loaded _ hexcused _ ↦ ?_
  · exact follows_bind_quiet (follows_runRuntime hregistration checkpoint (by omega))
      fun _ _ _ hconcluded ↦ follows_done fun _ ↦ hconcluded
  · split
    · refine follows_more (follows_bind (follows_refuseStaleCheckpoint precedence)
        fun _ _ _ _ ↦ follows_done fun hsome ↦ by cases hsome) (Nat.zero_le _)
    · next hother heq => exact follows_raise (Except.error.inj heq ▸ hexcused)
    · next heq => cases heq

theorem follows_commitResult (response : RuntimeResponse) (state : RuntimeState)
    (hconcluded : Concluded claim.run.runId history) :
    Follows manager claim 0 (fun _ _ ↦ True)
      (RuntimeManager.commitResult claim response state) history := by
  unfold RuntimeManager.commitResult
  simp only [Program.bind_eq_bind]
  refine follows_bind (follows_runCall ⟨rfl, rfl, hconcluded⟩) fun reply _ _ _ ↦ ?_
  split_ifs
  · exact follows_bind (follows_requireRun _) fun _ _ _ _ ↦ follows_markCancelled _ _ _
  · exact follows_done trivial

theorem follows_markPending :
    Follows manager claim 0 (fun _ _ ↦ True) (RuntimeManager.markPending claim) history :=
  follows_bind (follows_runCall trivial) fun _ _ _ _ ↦ follows_done trivial

/-- The code of a failure that carries none says nothing about external actions. -/
theorem Excused.warranted {failure : Failure} (hexcused : Excused manager claim failure history) :
    Warranted manager claim history (failure.code.getD "runtime_execution_failed") := by
  cases hcode : failure.code with
  | none => exact warranted_of_none rfl
  | some code => exact hexcused code hcode

theorem follows_commitFailure {run : RunRecord} (hrun : run.runId = claim.run.runId)
    {failure : Failure} (hexcused : Excused manager claim failure history) :
    Follows manager claim 0 (fun _ _ ↦ True) (manager.commitFailure claim run failure)
      history := by
  have hcancel (later : History) (latest : RunRecord) : Follows manager claim 0 (fun _ _ ↦ True)
      (RuntimeManager.markCancelled latest "cancelled_during_failure_boundary" claim.leaseToken)
      later :=
    follows_markCancelled _ _ _
  unfold RuntimeManager.commitFailure
  simp only [Program.bind_eq_bind]
  refine follows_bind (follows_requireRun _) fun latest later hlater _ ↦ ?_
  split
  · exact hcancel _ _
  · refine follows_bind (follows_runCall ⟨hrun, rfl, (hexcused.mono hlater).warranted⟩)
      fun reply _ _ _ ↦ ?_
    split
    · exact follows_bind (follows_requireRun _) fun _ _ _ _ ↦ hcancel _ _
    · exact follows_done trivial

theorem follows_concludeFailure {run : RunRecord} (hrun : run.runId = claim.run.runId)
    (precedence : Bool) {failure : Failure} (hexcused : Excused manager claim failure history) :
    Follows manager claim 0 (fun _ _ ↦ True)
      (manager.concludeFailure claim run precedence failure) history := by
  unfold RuntimeManager.concludeFailure
  simp only [Program.bind_eq_bind, Program.pure_eq_done]
  refine follows_bind follows_leaseLost fun lost later hlater _ ↦ ?_
  split
  · exact follows_done trivial
  · split
    · exact follows_markPending
    · split
      · exact follows_markPending
      · exact follows_commitFailure hrun (hexcused.mono hlater)

theorem follows_reconcileBeforeCancelling :
    Follows manager claim 0 (fun _ _ ↦ True) (RuntimeManager.reconcileBeforeCancelling claim)
      history := by
  unfold RuntimeManager.reconcileBeforeCancelling
  split_ifs
  · exact follows_done trivial
  · exact follows_done trivial
  · exact follows_mono (follows_workflowCall trivial) fun _ _ _ _ ↦ trivial

/-- The whole program of a worker obeys the conduct of its claim. -/
theorem follows_executeOwnedRun :
    Follows manager claim (roundsFor manager claim.run) (fun _ _ ↦ True)
      (manager.executeOwnedRun claim) [] := by
  unfold RuntimeManager.executeOwnedRun
  simp only [Program.bind_eq_bind, Program.pure_eq_done]
  refine follows_bind (follows_quietly follows_leaseLost) fun lost early _ hearly ↦ ?_
  have hnone : consultations early = 0 := Nat.le_zero.mp hearly.2
  split
  · exact follows_done trivial
  · refine follows_bind (follows_quietly follows_reconcileBeforeCancelling)
      fun precedence later _ hlater ↦ ?_
    have hquiet := hlater.2
    split
    · exact follows_more (follows_markCancelled _ _ _) (Nat.zero_le _)
    · refine follows_try (follows_executeRun precedence (by omega))
        (fun ended last hlast hconcluded ↦ ?_) fun failure last hlast hexcused ↦ ?_
      · cases ended with
        | none => exact follows_done trivial
        | some result =>
          obtain ⟨response, state⟩ := result
          dsimp only
          refine follows_bind follows_leaseLost fun late final hfinal _ ↦ ?_
          split
          · exact follows_done trivial
          · refine follows_try (follows_commitResult response state
              ((hconcluded rfl).mono hfinal)) (fun _ _ _ _ ↦ follows_done trivial)
              fun failure _ _ hexcused ↦ ?_
            have hrun : (RuntimeManager.withResult claim.run response state).runId =
                claim.run.runId := rfl
            exact follows_concludeFailure hrun precedence hexcused
      · exact follows_concludeFailure rfl precedence hexcused

end Attempt

end AgentRuntime.Execution
