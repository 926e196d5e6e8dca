import AgentRuntime.Execution.ConductRules

/-!
# The conduct of the coordinator

`ExternalActionCoordinator` keeps to the conduct of an attempt, method by method. What it reports
about an action it has read from the ledger or was told by the ledger: each method that raises one
of the codes of an external action has seen the action in the status that the code stands for, and
each observation it returns is that of a step which is known to be completed. The provider is
entered for an authorized call after a dispatch of its action was committed.
-/

set_option autoImplicit false
set_option relaxedAutoImplicit false

namespace AgentRuntime.Execution

open Library Store

/-! ### Known rows -/

/-- The history shows the row of an action of the Run. -/
def KnowsAction (claim : RunLeaseClaim) (history : History) (action : ExternalActionRecord) :
    Prop :=
  action.runId = claim.run.runId ∧ ∃ deed ∈ history,
    ShowsAction claim.run.runId action.stepId action.toExternalActionRow deed

/-- The history shows the row of a step of the Run. -/
def KnowsStep (claim : RunLeaseClaim) (history : History) (step : ToolCallRecord) : Prop :=
  step.runId = claim.run.runId ∧ ∃ deed ∈ history,
    ShowsStep claim.run.runId step.stepId step.toToolCallRow deed

section Known

variable {manager : RuntimeManager} {claim : RunLeaseClaim} {history later : History}
  {action : ExternalActionRecord} {step : ToolCallRecord}

theorem KnowsAction.mono (hknows : KnowsAction claim history action) (hlater : history <+: later) :
    KnowsAction claim later action := by
  obtain ⟨hrun, deed, hdeed, hshows⟩ := hknows
  exact ⟨hrun, deed, hlater.subset hdeed, hshows⟩

theorem KnowsAction.reports (hknows : KnowsAction claim history action) :
    Reports claim.run.runId action.stepId action.status history := by
  obtain ⟨-, deed, hdeed, hshows⟩ := hknows
  exact ⟨deed, hdeed, .inl ⟨action.toExternalActionRow, hshows, rfl⟩⟩

theorem KnowsStep.mono (hknows : KnowsStep claim history step) (hlater : history <+: later) :
    KnowsStep claim later step := by
  obtain ⟨hrun, deed, hdeed, hshows⟩ := hknows
  exact ⟨hrun, deed, hlater.subset hdeed, hshows⟩

theorem KnowsStep.done (hknows : KnowsStep claim history step)
    (hcompleted : step.status = .completed) :
    StepDone claim.run.runId step.stepId history := by
  obtain ⟨-, deed, hdeed, hshows⟩ := hknows
  exact .seen deed step.toToolCallRow hdeed hshows hcompleted

variable {context : RuntimeExecutionContext}

theorem follows_getExternalAction (hbelongs : Belongs claim context) (stepId : String) :
    Follows manager claim 0
      (fun found later ↦ ∀ action, found = some action →
        action.stepId = stepId ∧ KnowsAction claim later action)
      (WorkflowStore.getExternalAction context.runId stepId) history := by
  unfold WorkflowStore.getExternalAction
  rw [hbelongs.runId]
  refine follows_bind (follows_workflowCall trivial) fun row later _ hdeed ↦ follows_done ?_
  subst hdeed
  intro action haction
  obtain ⟨columns, rfl, rfl⟩ := Option.map_eq_some_iff.mp haction
  exact ⟨rfl, rfl, _, List.mem_append_right _ (List.mem_singleton_self _), .got⟩

theorem follows_getStep (hbelongs : Belongs claim context) (stepId : String) :
    Follows manager claim 0
      (fun found later ↦ ∀ step, found = some step →
        step.stepId = stepId ∧ KnowsStep claim later step)
      (WorkflowStore.getStep context.runId stepId) history := by
  unfold WorkflowStore.getStep
  rw [hbelongs.runId]
  refine follows_bind (follows_workflowCall trivial) fun row later _ hdeed ↦ follows_done ?_
  subst hdeed
  intro step hstep
  obtain ⟨columns, rfl, rfl⟩ := Option.map_eq_some_iff.mp hstep
  exact ⟨rfl, rfl, _, List.mem_append_right _ (List.mem_singleton_self _), .got⟩

theorem follows_listExternalActions (hbelongs : Belongs claim context) :
    Follows manager claim 0
      (fun actions later ↦ ∀ action ∈ actions, KnowsAction claim later action)
      (WorkflowStore.listExternalActions context.runId) history := by
  unfold WorkflowStore.listExternalActions
  rw [hbelongs.runId]
  refine follows_bind (follows_workflowCall trivial) fun rows later _ hdeed ↦ follows_done ?_
  subst hdeed
  intro action haction
  obtain ⟨entry, hentry, rfl⟩ := List.mem_map.mp haction
  exact ⟨rfl, _, List.mem_append_right _ (List.mem_singleton_self _), .listed rows hentry⟩

/-- The action and the step that a read-back finds. -/
theorem follows_readPair (hbelongs : Belongs claim context) (stepId : String) :
    Follows manager claim 0
      (fun found later ↦
        (∀ action, found.1 = some action →
          action.stepId = stepId ∧ KnowsAction claim later action) ∧
        ∀ step, found.2 = some step → step.stepId = stepId ∧ KnowsStep claim later step)
      (do
        let action ← WorkflowStore.getExternalAction context.runId stepId
        let current ← WorkflowStore.getStep context.runId stepId
        return (action, current)) history := by
  refine follows_bind (follows_getExternalAction hbelongs stepId) fun action later _ haction ↦ ?_
  refine follows_bind (follows_getStep hbelongs stepId) fun step last hlast hstep ↦ ?_
  refine follows_done ⟨fun found hfound ↦ ?_, hstep⟩
  exact ⟨(haction found hfound).1, (haction found hfound).2.mono hlast⟩

end Known

section Coordinator

variable {manager : RuntimeManager} {claim : RunLeaseClaim} {history : History}
  {context : RuntimeExecutionContext} {coordinator : ExternalActionCoordinator} {α : Type}

/-! ### Failing -/

theorem follows_fail (hbelongs : Belongs claim context) (hfail : coordinator.onFail = failLoop)
    {code : String} (detail : String) (hwarranted : Warranted manager claim history code) :
    Follows manager claim 0 (fun _ _ ↦ False) (coordinator.fail context code detail : Plain α)
      history := by
  unfold ExternalActionCoordinator.fail
  rw [hfail]
  exact follows_bind (follows_failLoop hbelongs detail hwarranted) fun _ _ _ hfalse ↦ hfalse.elim

/-- A code that says nothing about external actions. -/
theorem follows_failPlainly (hbelongs : Belongs claim context)
    (hfail : coordinator.onFail = failLoop) {code : String} (detail : String)
    (hplain : reportedStatus code = none) {budget : Nat} {good : α → History → Prop} :
    Follows manager claim budget good (coordinator.fail context code detail : Plain α) history :=
  follows_more (follows_of_never (follows_fail hbelongs hfail detail (warranted_of_none hplain)))
    (Nat.zero_le _)

theorem follows_failKeepingCode (hbelongs : Belongs claim context)
    (hfail : coordinator.onFail = failLoop) {code : String} (detail : String)
    (hwarranted : Warranted manager claim history code) :
    Follows manager claim 0 (fun _ _ ↦ False)
      (coordinator.failKeepingCode context code detail : Plain α) history := by
  refine follows_handle (follows_fail hbelongs hfail detail hwarranted)
    fun failure later hlater hexcused ↦ ?_
  split_ifs
  · exact follows_raise hexcused
  · exact follows_raise (excused_of_code (hwarranted.mono hlater))

theorem follows_pending {scope : Op → Bool} {budget : Nat} {good : α → History → Prop} :
    Follows manager claim budget good
      (.raise .reconciliationPending : Program Op.Answer Failure scope α) history :=
  follows_raise fun _ hcode ↦ Option.some.inj hcode ▸ warranted_of_none rfl

/-! ### Outcomes that cannot be proven -/

theorem follows_externalOutcomeUnknownWasCommitted (hbelongs : Belongs claim context)
    (step : ToolCallRecord) (dispatchToken attemptToken : String) :
    Follows manager claim 0
      (fun committed later ↦ committed = true →
        Reports claim.run.runId step.stepId .outcomeUnknown later)
      (ExternalActionCoordinator.externalOutcomeUnknownWasCommitted context step dispatchToken
        attemptToken) history := by
  refine follows_try (follows_readPair hbelongs step.stepId) (fun found later _ hfound ↦ ?_)
    fun failure later _ _ ↦ follows_done nofun
  split
  · next action current heq =>
    obtain rfl := Except.ok.inj heq
    refine follows_done fun hcommitted ↦ ?_
    obtain ⟨hstep, hknows⟩ := hfound.1 action rfl
    have hstatus : action.status = .outcomeUnknown := (of_decide_eq_true hcommitted).2.2.2.2.1
    exact hstep ▸ hstatus ▸ hknows.reports
  · exact follows_done nofun

/-- The finalizer records that the outcome of the step's action is unknown. -/
abbrev RecordsUnknown (manager : RuntimeManager) (claim : RunLeaseClaim) (history : History)
    (stepId : String) (finalizer : Plain ExternalActionRow) : Prop :=
  Follows manager claim 0
    (fun _ later ↦ Reports claim.run.runId stepId .outcomeUnknown later) finalizer history

theorem follows_raiseExternalOutcomeUnknown (hbelongs : Belongs claim context)
    (hfail : coordinator.onFail = failLoop) (step : ToolCallRecord)
    (dispatchToken attemptToken : String) {finalizer : Plain ExternalActionRow}
    (hfinalizer : RecordsUnknown manager claim history step.stepId finalizer) :
    Follows manager claim 0 (fun _ _ ↦ False)
      (coordinator.raiseExternalOutcomeUnknown context step dispatchToken attemptToken finalizer :
        Plain α) history := by
  -- What follows once the outcome is known to be on record.
  have hreported (later : History)
      (hreports : Reports claim.run.runId step.stepId .outcomeUnknown later) :
      Follows manager claim 0 (fun _ _ ↦ False)
        ((Program.attempt (do
            mirrorEvidence context
            recordToolFailure context step.stepId step.toolName "external_action_outcome_unknown" :
            Plain Unit)).bind fun _ ↦
          (coordinator.failKeepingCode context "external_action_outcome_unknown"
            "External action outcome could not be durably proven." : Plain α)) later := by
    have hstep (last : History) (hlast : later <+: last) : StepWarranted manager claim last
        step.stepId "external_action_outcome_unknown" :=
      stepWarranted_of_reports (hreports.mono hlast) rfl
    refine follows_attempt (follows_bind (follows_widen (follows_mirrorEvidence context))
      fun _ last hlast _ ↦ follows_widen (follows_recordToolFailure hbelongs _ (hstep last hlast)))
      fun _ last hlast ↦ ?_
    exact follows_failKeepingCode hbelongs hfail _ (hstep last hlast).warranted
  unfold ExternalActionCoordinator.raiseExternalOutcomeUnknown
  simp only [Program.bind_eq_bind, Program.throw_eq_raise, Program.discard_eq_bind,
    Program.bind_bind, Program.done_bind, Program.raise_bind]
  refine follows_try hfinalizer (fun _ later _ hreports ↦ hreported later hreports)
    fun failure later _ hexcused ↦ ?_
  dsimp only
  split_ifs
  · exact follows_raise hexcused
  · refine follows_bind (follows_widen (follows_externalOutcomeUnknownWasCommitted hbelongs step
      dispatchToken attemptToken)) fun committed last _ hcommitted ↦ ?_
    cases committed with
    | false => exact follows_pending
    | true => exact hreported last (hcommitted rfl)

theorem recordsUnknown_reconciliation (hbelongs : Belongs claim context)
    (stepId dispatchToken attemptToken code : String) (leaseToken : Option String) :
    RecordsUnknown manager claim history stepId
      (WorkflowStore.finalizeExternalActionReconciliationUnknown context.runId stepId dispatchToken
        attemptToken code leaseToken) := by
  unfold WorkflowStore.finalizeExternalActionReconciliationUnknown
  rw [hbelongs.runId]
  refine follows_mono (follows_workflowCall trivial) fun row later _ hdeed ↦ ?_
  exact ⟨_, hdeed ▸ List.mem_append_right _ (List.mem_singleton_self _),
    .inr (.reconciliationUnknown _ _ _ _ _ row)⟩

theorem recordsUnknown_provider (hbelongs : Belongs claim context)
    (stepId dispatchToken attemptToken code : String) :
    RecordsUnknown manager claim history stepId
      (WorkflowStore.finalizeExternalActionOutcomeUnknown context.runId stepId dispatchToken
        attemptToken code) := by
  unfold WorkflowStore.finalizeExternalActionOutcomeUnknown
  rw [hbelongs.runId]
  refine follows_mono (follows_workflowCall trivial) fun row later _ hdeed ↦ ?_
  exact ⟨_, hdeed ▸ List.mem_append_right _ (List.mem_singleton_self _),
    .inr (.outcomeUnknown _ _ _ _ row)⟩

theorem recordsUnknown_interrupted (hbelongs : Belongs claim context)
    (stepId dispatchToken attemptToken : String) (leaseToken : Option String) :
    RecordsUnknown manager claim history stepId
      (WorkflowStore.finalizeUnsafeInterruptedAction context.runId stepId dispatchToken
        attemptToken leaseToken) := by
  unfold WorkflowStore.finalizeUnsafeInterruptedAction
  rw [hbelongs.runId]
  refine follows_mono (follows_workflowCall trivial) fun row later _ hdeed ↦ ?_
  exact ⟨_, hdeed ▸ List.mem_append_right _ (List.mem_singleton_self _),
    .inr (.unsafeInterrupted _ _ _ _ row)⟩

theorem follows_failExternalDispatchBinding (hbelongs : Belongs claim context)
    (hfail : coordinator.onFail = failLoop) (step : ToolCallRecord)
    (action : ExternalActionRecord) :
    Follows manager claim 0 (fun _ _ ↦ False)
      (coordinator.failExternalDispatchBinding context step action : Plain α) history := by
  unfold ExternalActionCoordinator.failExternalDispatchBinding
  split
  · exact follows_raiseExternalOutcomeUnknown hbelongs hfail step _ _
      (recordsUnknown_reconciliation hbelongs _ _ _ _ _)
  · exact follows_pending

theorem follows_finalizeProviderUnknown (hbelongs : Belongs claim context)
    (hfail : coordinator.onFail = failLoop) (step : ToolCallRecord)
    (dispatchToken attemptToken : String) :
    Follows manager claim 0 (fun _ _ ↦ False)
      (coordinator.finalizeProviderUnknown context step dispatchToken attemptToken : Plain α)
      history :=
  follows_raiseExternalOutcomeUnknown hbelongs hfail step _ _
    (recordsUnknown_provider hbelongs _ _ _ _)

theorem follows_finalizeReconciliationUnknown (hbelongs : Belongs claim context)
    (hfail : coordinator.onFail = failLoop) (step : ToolCallRecord)
    (dispatchToken attemptToken : String) :
    Follows manager claim 0 (fun _ _ ↦ False)
      (coordinator.finalizeReconciliationUnknown context step dispatchToken attemptToken :
        Plain α) history :=
  follows_raiseExternalOutcomeUnknown hbelongs hfail step _ _
    (recordsUnknown_reconciliation hbelongs _ _ _ _ _)

/-! ### Reconciliation -/

theorem leastProven_mem (actions : List ExternalActionRecord) {action : ExternalActionRecord}
    (hleast : leastProven actions = some action) : action ∈ actions := by
  induction actions generalizing action with
  | nil => cases hleast
  | cons first rest ih =>
    unfold leastProven at hleast
    split at hleast
    · exact Option.some.inj hleast ▸ List.mem_cons_self
    · next other hother =>
      split_ifs at hleast
      · exact List.mem_cons_of_mem _ (ih (hother.trans hleast))
      · exact Option.some.inj hleast ▸ List.mem_cons_self

theorem mem_of_selectReconciliation {actions : List ExternalActionRecord} {includeTerminal : Bool}
    {action : ExternalActionRecord}
    (hselect : ExternalActionCoordinator.selectReconciliation actions includeTerminal =
      .resolve action) : action ∈ actions := by
  unfold ExternalActionCoordinator.selectReconciliation at hselect
  dsimp only at hselect
  split_ifs at hselect
  split at hselect
  · cases hselect
  · next other hleast =>
    obtain rfl := Reconciliation.resolve.inj hselect
    exact List.mem_of_mem_filter (List.mem_of_mem_filter (leastProven_mem _ hleast))

theorem follows_resolveAction (hbelongs : Belongs claim context)
    (hfail : coordinator.onFail = failLoop) {action : ExternalActionRecord}
    (hknows : KnowsAction claim history action) :
    Follows manager claim 0 (fun _ _ ↦ False) (coordinator.resolveAction context action)
      history := by
  have hreports := hknows.reports
  unfold ExternalActionCoordinator.resolveAction
  simp only [Program.bind_eq_bind, Program.throw_eq_raise]
  split
  · refine follows_bind (follows_widen (follows_getStep hbelongs _)) fun found later _ _ ↦ ?_
    split
    · exact follows_pending
    · exact follows_failExternalDispatchBinding hbelongs hfail _ _
  · next hstatus =>
    rw [hstatus] at hreports
    exact follows_failKeepingCode hbelongs hfail _
      (stepWarranted_of_reports hreports rfl).warranted
  · next hstatus =>
    rw [hstatus] at hreports
    exact follows_failKeepingCode hbelongs hfail _
      (stepWarranted_of_reports hreports rfl).warranted
  · next hstatus =>
    rw [hstatus] at hreports
    exact follows_failKeepingCode hbelongs hfail _
      (stepWarranted_of_reports hreports rfl).warranted
  · exact follows_pending

theorem follows_reconcile (hbelongs : Belongs claim context)
    (hfail : coordinator.onFail = failLoop) (target : Reconciliation)
    (hknows : ∀ action, target = .resolve action → KnowsAction claim history action) :
    Follows manager claim 0 (fun _ _ ↦ True) (coordinator.reconcile context target) history := by
  -- The mirror may fail, but for the lease, before the target is resolved.
  have hafter (rest : Plain Unit) (next : Except Failure Unit → Plain Unit)
      (hok : next (.ok ()) = rest)
      (herror : ∀ failure, next (.error failure) =
        if failure.isLeaseLost then .raise failure else rest)
      (hrest : ∀ later, history <+: later → Follows manager claim 0 (fun _ _ ↦ True) rest later) :
      Follows manager claim 0 (fun _ _ ↦ True)
        ((Program.attempt (mirrorEvidence context : Plain Unit)).bind next) history := by
    refine follows_try (follows_widen (follows_mirrorEvidence context))
      (fun _ later hlater _ ↦ hok ▸ hrest later hlater) fun failure later hlater hexcused ↦ ?_
    rw [herror]
    split_ifs
    · exact follows_raise hexcused
    · exact hrest later hlater
  cases target with
  | nothing => exact follows_done trivial
  | pending =>
    unfold ExternalActionCoordinator.reconcile
    simp only [Program.bind_eq_bind, Program.throw_eq_raise]
    exact hafter _ _ rfl (fun _ ↦ rfl) fun _ _ ↦ follows_pending
  | resolve action =>
    unfold ExternalActionCoordinator.reconcile
    simp only [Program.bind_eq_bind, Program.throw_eq_raise]
    exact hafter _ _ rfl (fun _ ↦ rfl) fun later hlater ↦ follows_of_never
      (follows_resolveAction hbelongs hfail ((hknows action rfl).mono hlater))

theorem follows_reconcileAction (hbelongs : Belongs claim context)
    (hfail : coordinator.onFail = failLoop) {action : ExternalActionRecord}
    (hknows : KnowsAction claim history action) :
    Follows manager claim 0 (fun _ _ ↦ True) (coordinator.reconcileAction context action)
      history := by
  refine follows_reconcile hbelongs hfail _ fun other hother ↦ ?_
  unfold ExternalActionCoordinator.checkReconciliation at hother
  split_ifs at hother
  exact Reconciliation.resolve.inj hother ▸ hknows

theorem follows_reconcileRun (hbelongs : Belongs claim context)
    (hfail : coordinator.onFail = failLoop) (includeTerminal : Bool) :
    Follows manager claim 0 (fun _ _ ↦ True) (coordinator.reconcileRun context includeTerminal)
      history := by
  refine follows_bind (follows_widen (follows_listExternalActions hbelongs))
    fun actions later _ hactions ↦ ?_
  refine follows_reconcile hbelongs hfail _ fun action haction ↦ ?_
  exact hactions action (mem_of_selectReconciliation haction)

theorem follows_failRestoredStep (hbelongs : Belongs claim context)
    (hfail : coordinator.onFail = failLoop) {action : Option ExternalActionRecord} {code : String}
    (detail : String) (hknows : ∀ known, action = some known → KnowsAction claim history known)
    (hplain : reportedStatus code = none) :
    Follows manager claim 0 (fun _ _ ↦ False)
      (coordinator.failRestoredStep context action code detail : Plain α) history := by
  unfold ExternalActionCoordinator.failRestoredStep
  simp only [Program.bind_eq_bind]
  split
  · next known =>
    split_ifs
    · exact follows_bind (follows_reconcileAction hbelongs hfail (hknows known rfl))
        fun _ _ _ _ ↦ follows_failPlainly hbelongs hfail detail hplain
    · exact follows_failPlainly hbelongs hfail detail hplain
  · exact follows_failPlainly hbelongs hfail detail hplain

theorem follows_validateExternalActionBinding {invocation : Invocation}
    (hbelongs : Belongs claim invocation.context) (hfail : coordinator.onFail = failLoop)
    (step : ToolCallRecord) {action : ExternalActionRecord} (providerIdentity : Option String)
    (hknows : KnowsAction claim history action) :
    Follows manager claim 0
      (fun _ _ ↦ coordinator.bindingMatches invocation step action providerIdentity = true)
      (coordinator.validateExternalActionBinding invocation step action providerIdentity)
      history := by
  have hplainly (later : History) (detail : String) : Follows manager claim 0 (fun _ _ ↦ False)
      (coordinator.fail invocation.context "invalid_planner_decision" detail : Plain Unit) later :=
    follows_failPlainly hbelongs hfail detail rfl
  have hbinding : Follows manager claim 0 (fun _ _ ↦ False)
      (coordinator.failExternalDispatchBinding invocation.context step action : Plain Unit)
      history :=
    follows_failExternalDispatchBinding hbelongs hfail _ _
  unfold ExternalActionCoordinator.validateExternalActionBinding
  simp only [Program.bind_eq_bind, Bool.not_eq_true']
  by_cases hmatches : coordinator.bindingMatches invocation step action providerIdentity = true
  · rw [if_neg (by rw [hmatches]; decide)]
    split
    · split
      · exact follows_bind_never hbinding
      · exact follows_of_never (hplainly history _)
    · exact follows_done hmatches
  · rw [if_pos (by simpa using hmatches)]
    split
    · exact follows_bind_never hbinding
    · split
      · exact follows_bind (follows_reconcileAction hbelongs hfail hknows) fun _ later _ _ ↦
          follows_bind_never (hplainly later _)
      · exact follows_bind_never (hplainly history _)

/-! ### Restoring recorded outcomes -/

theorem follows_recordExternalSuccessEvidence (hbelongs : Belongs claim context)
    (step : ToolCallRecord) (result : Payload)
    (hreports : Reports claim.run.runId step.stepId .succeeded history) :
    Follows manager claim 0 (fun _ _ ↦ True)
      (coordinator.recordExternalSuccessEvidence context step result) history := by
  have hevidence (later : History) (hlater : history <+: later) :
      Follows manager claim 0 (fun _ _ ↦ True)
        (ExternalActionCoordinator.successEvidence context step result) later :=
    follows_bind (follows_mirrorEvidence context) fun _ last hlast _ ↦
      follows_recordToolSuccess hbelongs _ _ (.inr (hreports.mono (hlater.trans hlast)))
  unfold ExternalActionCoordinator.recordExternalSuccessEvidence
  refine follows_try (hevidence history (List.prefix_refl _)) (fun _ _ _ _ ↦ follows_done trivial)
    fun _ later hlater _ ↦ ?_
  refine follows_try (hevidence later hlater) (fun _ _ _ _ ↦ follows_done trivial)
    fun _ last hlast _ ↦ ?_
  exact follows_raise (excused_of_code
    (stepWarranted_of_reports (hreports.mono (hlater.trans hlast)) rfl).warranted)

theorem follows_raiseExternalTerminalFailure (hbelongs : Belongs claim context)
    (hfail : coordinator.onFail = failLoop) (step : ToolCallRecord) {code : String}
    (hwarranted : StepWarranted manager claim history step.stepId code) :
    Follows manager claim 0 (fun _ _ ↦ False)
      (coordinator.raiseExternalTerminalFailure context step code : Plain α) history := by
  have hevidence (later : History) (hlater : history <+: later) :
      Follows manager claim 0 (fun _ _ ↦ True)
        (ExternalActionCoordinator.failureEvidence context step code : Plain Unit) later :=
    follows_widen (follows_bind (follows_mirrorEvidence context) fun _ last hlast _ ↦
      follows_recordToolFailure hbelongs _ (hwarranted.mono (hlater.trans hlast)))
  have hlast (later : History) (hlater : history <+: later) :
      Follows manager claim 0 (fun _ _ ↦ False) (coordinator.failKeepingCode context code
        "Persisted external action failed." : Plain α) later :=
    follows_failKeepingCode hbelongs hfail _ (hwarranted.mono hlater).warranted
  unfold ExternalActionCoordinator.raiseExternalTerminalFailure
  simp only [Program.bind_eq_bind, Program.discard_eq_bind, Program.bind_bind, Program.done_bind]
  refine follows_try (hevidence history (List.prefix_refl _))
    (fun _ later hlater _ ↦ hlast later hlater) fun _ later hlater _ ↦ ?_
  exact follows_attempt (hevidence later hlater) fun _ last hmore ↦ hlast last (hlater.trans hmore)

theorem decodeToolResult_code {step : ToolCallRecord} {failure : Failure}
    (hdecode : decodeToolResult step = .error failure) :
    ∃ message, failure = .runtimeExecution "tool_execution_failed" message := by
  unfold decodeToolResult at hdecode
  split at hdecode
  · exact ⟨_, (Except.error.inj hdecode).symm⟩
  · cases hdecode
  · exact ⟨_, (Except.error.inj hdecode).symm⟩

/-- What is wrong with a recorded result is not about the outcome of the action. -/
theorem restorableResult_code {invocation : Invocation} {step : ToolCallRecord}
    {action : ExternalActionRecord} {code detail : String}
    (hresult : ExternalActionCoordinator.restorableResult invocation step action =
      .error (code, detail)) : reportedStatus code = none := by
  have hinvalid {message : String}
      (heq : (.error ("invalid_planner_decision", message) : Except (String × String) Payload) =
        .error (code, detail)) : reportedStatus code = none := by
    obtain ⟨rfl, -⟩ := Prod.mk.inj (Except.error.inj heq)
    rfl
  unfold ExternalActionCoordinator.restorableResult at hresult
  dsimp only at hresult
  split_ifs at hresult
  · exact hinvalid hresult
  · split at hresult
    · next failure hdecode =>
      obtain ⟨message, rfl⟩ := decodeToolResult_code hdecode
      obtain ⟨rfl, -⟩ := Prod.mk.inj (Except.error.inj hresult)
      rfl
    · split at hresult
      · exact hinvalid hresult
      · split at hresult
        · exact hinvalid hresult
        · split_ifs at hresult <;> exact hinvalid hresult

/-- A result is restored from a completed step and a succeeded action only. -/
theorem status_of_restorableResult {invocation : Invocation} {step : ToolCallRecord}
    {action : ExternalActionRecord} {result : Payload}
    (hresult : ExternalActionCoordinator.restorableResult invocation step action = .ok result) :
    step.status = .completed ∧ action.status = .succeeded := by
  unfold ExternalActionCoordinator.restorableResult at hresult
  dsimp only at hresult
  split_ifs at hresult with hinvalid
  simp only [not_or, not_not] at hinvalid
  exact ⟨hinvalid.1, hinvalid.2.1⟩

theorem follows_restoreSuccess {invocation : Invocation}
    (hbelongs : Belongs claim invocation.context) (hfail : coordinator.onFail = failLoop)
    {step : ToolCallRecord} (hstep : KnowsStep claim history step) :
    Follows manager claim 0 (fun _ later ↦ StepDone claim.run.runId step.stepId later)
      (coordinator.restoreSuccess invocation step) history := by
  unfold ExternalActionCoordinator.restoreSuccess
  refine follows_bind (follows_widen (follows_getExternalAction hbelongs step.stepId))
    fun found later hlater hfound ↦ ?_
  split
  · exact follows_failPlainly hbelongs hfail _ rfl
  · next action =>
    obtain ⟨hid, hknows⟩ := hfound action rfl
    refine follows_bind (follows_validateExternalActionBinding hbelongs hfail step none hknows)
      fun _ valid hvalid _ ↦ ?_
    split
    · next code detail hresult =>
      refine follows_of_never (follows_failRestoredStep hbelongs hfail detail
        (fun known hknown ↦ ?_) (restorableResult_code hresult))
      exact Option.some.inj hknown ▸ hknows.mono hvalid
    · next result hresult =>
      obtain ⟨hcompleted, hsucceeded⟩ := status_of_restorableResult hresult
      have hreports : Reports claim.run.runId step.stepId .succeeded valid :=
        hid ▸ hsucceeded ▸ (hknows.mono hvalid).reports
      refine follows_bind (follows_widen (follows_recordExternalSuccessEvidence hbelongs step
        result hreports)) fun _ last hlast _ ↦ follows_done ?_
      exact (hstep.done hcompleted).mono (hlater.trans (hvalid.trans hlast))

theorem reportedStatus_of_expected {status : ExternalActionStatus} {code : String}
    (hcode : ExternalActionCoordinator.expectedFailureCode status = some code) :
    reportedStatus code = some status := by
  cases status <;> cases hcode <;> rfl

theorem follows_restoreFailure {invocation : Invocation}
    (hbelongs : Belongs claim invocation.context) (hfail : coordinator.onFail = failLoop)
    (step : ToolCallRecord) :
    Follows manager claim 0 (fun _ _ ↦ False)
      (coordinator.restoreFailure invocation step : Plain α) history := by
  unfold ExternalActionCoordinator.restoreFailure
  refine follows_bind (follows_widen (follows_getExternalAction hbelongs step.stepId))
    fun found later _ hfound ↦ ?_
  split
  · exact follows_failPlainly hbelongs hfail _ rfl
  · next action =>
    obtain ⟨hid, hknows⟩ := hfound action rfl
    refine follows_bind (follows_validateExternalActionBinding hbelongs hfail step none hknows)
      fun _ valid hvalid _ ↦ ?_
    have hrejected (detail : String) : Follows manager claim 0 (fun _ _ ↦ False)
        (coordinator.failRestoredStep invocation.context (some action) "invalid_planner_decision"
          detail : Plain α) valid :=
      follows_failRestoredStep hbelongs hfail detail
        (fun known hknown ↦ Option.some.inj hknown ▸ hknows.mono hvalid) rfl
    split
    · next code hcode =>
      split_ifs
      · refine follows_raiseExternalTerminalFailure hbelongs hfail step ?_
        exact stepWarranted_of_reports (hid ▸ (hknows.mono hvalid).reports)
          (reportedStatus_of_expected hcode)
      · exact hrejected _
    · exact hrejected _

theorem follows_handleExternalTerminal {invocation : Invocation}
    (hbelongs : Belongs claim invocation.context) (hfail : coordinator.onFail = failLoop)
    (step : ToolCallRecord) (action : ExternalActionRecord) :
    Follows manager claim 0 (fun _ later ↦ StepDone claim.run.runId step.stepId later)
      (coordinator.handleExternalTerminal invocation step action) history := by
  unfold ExternalActionCoordinator.handleExternalTerminal
  refine follows_bind (follows_widen (follows_getStep hbelongs step.stepId))
    fun found later _ hfound ↦ ?_
  split
  · exact follows_failPlainly hbelongs hfail _ rfl
  · next current =>
    obtain ⟨hid, hknows⟩ := hfound current rfl
    split
    · exact hid ▸ follows_restoreSuccess hbelongs hfail hknows
    · exact follows_of_never (follows_restoreFailure hbelongs hfail current)
    · exact follows_of_never (follows_restoreFailure hbelongs hfail current)
    · exact follows_failPlainly hbelongs hfail _ rfl
    · exact follows_failPlainly hbelongs hfail _ rfl

/-! ### Read-backs -/

theorem follows_readBack (hbelongs : Belongs claim context) (step : ToolCallRecord) :
    Follows manager claim 0
      (fun found later ↦ ∀ action current, found = some (action, current) →
        Reports claim.run.runId step.stepId action.status later ∧
          (current.status = .completed → StepDone claim.run.runId step.stepId later))
      (ExternalActionCoordinator.readBack context step) history := by
  refine follows_try (follows_readPair hbelongs step.stepId) (fun found later _ hfound ↦ ?_)
    fun failure later _ _ ↦ follows_done fun _ _ heq ↦ by cases heq
  split
  · next action current heq =>
    obtain rfl := Except.ok.inj heq
    obtain ⟨haction, hknowsAction⟩ := hfound.1 action rfl
    obtain ⟨hstep, hknowsStep⟩ := hfound.2 current rfl
    refine follows_done fun other otherStep hother ↦ ?_
    obtain ⟨rfl, rfl⟩ := Prod.mk.inj (Option.some.inj hother)
    exact ⟨haction ▸ hknowsAction.reports, fun hcompleted ↦ hstep ▸ hknowsStep.done hcompleted⟩
  · exact follows_done fun _ _ heq ↦ by cases heq

theorem follows_externalSuccessWasCommitted (hbelongs : Belongs claim context)
    (step : ToolCallRecord) (expected : ExternalActionRecord) (dispatchToken : String)
    (resultJson : Json) (providerReference : String) :
    Follows manager claim 0
      (fun committed later ↦ committed = true →
        Reports claim.run.runId step.stepId .succeeded later ∧
          StepDone claim.run.runId step.stepId later)
      (ExternalActionCoordinator.externalSuccessWasCommitted context step expected dispatchToken
        resultJson providerReference) history := by
  refine follows_bind (follows_readBack hbelongs step) fun found later _ hfound ↦ ?_
  split
  · exact follows_done nofun
  · next action current =>
    obtain ⟨hreports, hdone⟩ := hfound action current rfl
    refine follows_done fun hcommitted ↦ ?_
    have hcolumns := of_decide_eq_true (Bool.and_eq_true_iff.mp hcommitted).2
    exact ⟨hcolumns.1 ▸ hreports, hdone hcolumns.2.2.2.2.2.1⟩

theorem follows_externalFailureWasCommitted (hbelongs : Belongs claim context)
    (step : ToolCallRecord) (expected : ExternalActionRecord) (dispatchToken : String) :
    Follows manager claim 0
      (fun committed later ↦ committed = true →
        Reports claim.run.runId step.stepId .failed later)
      (ExternalActionCoordinator.externalFailureWasCommitted context step expected dispatchToken)
      history := by
  refine follows_bind (follows_readBack hbelongs step) fun found later _ hfound ↦ ?_
  split
  · exact follows_done nofun
  · next action current =>
    refine follows_done fun hcommitted ↦ ?_
    have hcolumns := of_decide_eq_true (Bool.and_eq_true_iff.mp hcommitted).2
    exact hcolumns.1 ▸ (hfound action current rfl).1

/-! ### Dispatching -/

/-- The invocation and the step of an authorized external call. -/
structure Carries (claim : RunLeaseClaim) (call : ToolCall) (invocation : Invocation)
    (step : ToolCallRecord) (providerName : String) : Prop where
  belongs : Belongs claim invocation.context
  arguments : invocation.normalizedArguments = call.normalized
  step : step.stepId = call.stepId
  provider : call.spec.providerName = some providerName
  external : call.isExternal = true

/-- The attempt committed a dispatch of the action of an authorized call. -/
def Dispatched (manager : RuntimeManager) (claim : RunLeaseClaim) (history : History)
    (call : ToolCall) (action : ExternalActionRecord) : Prop :=
  ∃ before deed row, before ++ [deed] <+: history ∧ Authorized manager claim before call ∧
    Dispatches claim.run.runId call.stepId row deed ∧
    action = .of claim.run.runId call.stepId row

theorem Dispatched.mono {call : ToolCall} {action : ExternalActionRecord} {later : History}
    (hdispatched : Dispatched manager claim history call action) (hlater : history <+: later) :
    Dispatched manager claim later call action := by
  obtain ⟨before, deed, row, hbefore, hrest⟩ := hdispatched
  exact ⟨before, deed, row, hbefore.trans hlater, hrest⟩

theorem Validated.mono {call : ToolCall} {later : History}
    (hvalidated : Validated claim history call) (hlater : history <+: later) :
    Validated claim later call := by
  obtain ⟨deed, hdeed, hshows⟩ := hvalidated
  exact ⟨deed, hlater.subset hdeed, hshows⟩

variable {call : ToolCall} {invocation : Invocation} {step : ToolCallRecord}
  {registry : ProviderRegistry} {providerName attemptToken : String}

theorem follows_dispatchRequest (mode : ExternalActionRetryMode) (dispatch : Nat)
    (request : ExternalActionRequest)
    (hmay : MayPerform manager claim history (.enterProvider providerName dispatch request)) :
    Follows manager claim 0 (fun _ _ ↦ True)
      (dispatchRequest registry providerName mode dispatch request) history := by
  unfold dispatchRequest
  simp only [Program.bind_eq_bind, Program.throw_eq_raise, Program.pure_eq_done,
    Program.discard_eq_bind, Program.bind_bind, Program.done_bind, Program.raise_bind]
  split
  · exact follows_raise (excused_of_none rfl)
  · split_ifs
    · exact follows_raise (excused_of_none rfl)
    · -- Whatever the provider raises, the dispatcher turns it into one of two exceptions.
      refine Program.obeys_try
        (fun _ later ↦ consultations later ≤ consultations history) ?_ ?_
      · refine Program.obeys_seq (fun _ later ↦ consultations later ≤ consultations history)
          (Program.obeys_ask hmay fun answer _ ↦ ?_) (fun _ later _ hcount ↦ ?_)
          fun _ _ _ hcount ↦ hcount
        · rw [consultations_append]
          rfl
        · refine Program.obeys_ask trivial fun answer _ ↦ ?_
          rw [consultations_append]
          exact hcount
      · intro result later _ hcount
        have hend (program : Runtime ProviderResult)
            (hprogram : Follows manager claim 0 (fun _ _ ↦ True) program later) :
            program.Obeys (conduct manager claim) (fun result last ↦
              consultations last ≤ consultations history + 0 ∧
                Ends manager claim (fun _ _ ↦ True) result last) later :=
          Program.obeys_mono hprogram fun _ _ _ hlast ↦ ⟨hlast.1.trans (by omega), hlast.2⟩
        refine hend _ ?_
        split
        · exact follows_raise (excused_of_none rfl)
        · exact follows_raise (excused_of_none rfl)
        · split
          · exact follows_done trivial
          · exact follows_raise (excused_of_none rfl)

theorem follows_retryAfterAmbiguousResult (hfail : coordinator.onFail = failLoop)
    (hcarries : Carries claim call invocation step providerName)
    (hauthorized : Authorized manager claim history call) (action : ExternalActionRecord)
    (dispatchToken : String) :
    Follows manager claim 0
      (fun found later ↦ ∀ rotated token, found = some (rotated, token) →
        Dispatched manager claim later call rotated)
      (coordinator.retryAfterAmbiguousResult invocation step action dispatchToken attemptToken)
      history := by
  have hbelongs := hcarries.belongs
  unfold ExternalActionCoordinator.retryAfterAmbiguousResult
  simp only [Program.bind_eq_bind, Program.pure_eq_done]
  split_ifs
  · exact follows_done fun _ _ heq ↦ by cases heq
  · refine follows_bind (follows_workflowCall ⟨hbelongs.runId, hbelongs.leaseToken⟩)
      fun reply later _ hdeed ↦ ?_
    refine follows_bind (follows_widen (follows_widen (follows_mirrorEvidence _)))
      fun _ last hlast _ ↦ ?_
    split
    · refine follows_done fun rotated token heq ↦ ?_
      obtain ⟨rfl, rfl⟩ := Prod.mk.inj (Option.some.inj heq)
      rw [hbelongs.runId, hcarries.step] at hdeed ⊢
      exact ⟨history, _, reply.action, hdeed ▸ hlast, hauthorized, .retried _ _ _ reply rfl, rfl⟩
    · exact follows_widen (follows_failPlainly hbelongs hfail _ rfl)
    · exact follows_done fun _ _ heq ↦ by cases heq
    · exact follows_widen (follows_failPlainly hbelongs hfail _ rfl)

theorem follows_recordDefinitiveFailure (hbelongs : Belongs claim context)
    (hfail : coordinator.onFail = failLoop) (step : ToolCallRecord) (action : ExternalActionRecord)
    (dispatchToken attemptToken : String) :
    Follows manager claim 0 (fun _ _ ↦ False)
      (coordinator.recordDefinitiveFailure context step action dispatchToken attemptToken :
        Runtime α) history := by
  have hraise (later : History) (hreports : Reports claim.run.runId step.stepId .failed later) :
      Follows manager claim 0 (fun _ _ ↦ False)
        (coordinator.raiseExternalTerminalFailure context step "external_action_failed" :
          Runtime α) later :=
    follows_widen (follows_raiseExternalTerminalFailure hbelongs hfail step
      (stepWarranted_of_reports hreports rfl))
  have hfinalize : Follows manager claim 0
      (fun _ later ↦ Reports claim.run.runId step.stepId .failed later)
      (WorkflowStore.finalizeExternalActionFailed context.runId step.stepId dispatchToken
        attemptToken "external_action_failed") history := by
    unfold WorkflowStore.finalizeExternalActionFailed
    rw [hbelongs.runId]
    refine follows_mono (follows_workflowCall trivial) fun row later _ hdeed ↦ ?_
    exact ⟨_, hdeed ▸ List.mem_append_right _ (List.mem_singleton_self _),
      .inr (.failed _ _ _ _ row)⟩
  unfold ExternalActionCoordinator.recordDefinitiveFailure
  simp only [Program.bind_eq_bind]
  refine follows_try hfinalize (fun _ later _ hreports ↦ hraise later hreports)
    fun _ later _ _ ↦ ?_
  dsimp only
  refine follows_bind (follows_widen (follows_widen (follows_externalFailureWasCommitted hbelongs
    step action dispatchToken))) fun committed last _ hcommitted ↦ ?_
  cases committed with
  | false =>
    exact follows_bind_never
      (follows_widen (follows_finalizeProviderUnknown hbelongs hfail step _ _))
  | true => exact hraise last (hcommitted rfl)

theorem follows_recordTrustedResult (hbelongs : Belongs claim invocation.context)
    (hfail : coordinator.onFail = failLoop) (action : ExternalActionRecord)
    (dispatchToken : String) (trusted : Payload) (providerReference : String) :
    Follows manager claim 0 (fun _ later ↦ StepDone claim.run.runId step.stepId later)
      (coordinator.recordTrustedResult invocation step action dispatchToken attemptToken trusted
        providerReference) history := by
  have hrecord (later : History)
      (hreports : Reports claim.run.runId step.stepId .succeeded later)
      (hdone : StepDone claim.run.runId step.stepId later) :
      Follows manager claim 0 (fun _ later ↦ StepDone claim.run.runId step.stepId later)
        ((coordinator.recordExternalSuccessEvidence invocation.context step trusted :
          Plain Unit).bind fun _ ↦ .done (⟨step.stepId, step.toolName,
            invocation.normalizedArguments, trusted, false⟩ : ToolObservation)) later :=
    follows_bind (follows_widen (follows_recordExternalSuccessEvidence hbelongs step trusted
      hreports)) fun _ _ hlast _ ↦ follows_done (hdone.mono hlast)
  have hfinalize : Follows manager claim 0
      (fun _ later ↦ Reports claim.run.runId step.stepId .succeeded later ∧
        StepDone claim.run.runId step.stepId later)
      (WorkflowStore.finalizeExternalActionSucceeded invocation.context.runId step.stepId
        dispatchToken attemptToken (canonicalJson trusted) providerReference) history := by
    unfold WorkflowStore.finalizeExternalActionSucceeded
    rw [hbelongs.runId]
    refine follows_mono (follows_workflowCall trivial) fun row later _ hdeed ↦ ?_
    have hmem := List.mem_append_right history (List.mem_singleton_self
      (Deed.workflow (.finalizeExternalActionSucceeded claim.run.runId step.stepId dispatchToken
        attemptToken (canonicalJson trusted) providerReference none) (.ok row)))
    rw [hdeed]
    exact ⟨⟨_, hmem, .inr (.succeeded _ _ _ _ _ row)⟩, .settled _ hmem (.succeeded _ _ _ _ _ row)⟩
  unfold ExternalActionCoordinator.recordTrustedResult
  simp only [Program.bind_eq_bind, Program.pure_eq_done]
  refine follows_try hfinalize (fun _ later _ hend ↦ hrecord later hend.1 hend.2)
    fun _ later _ _ ↦ ?_
  dsimp only
  refine follows_bind (follows_widen (follows_externalSuccessWasCommitted hbelongs step action
    dispatchToken (canonicalJson trusted) providerReference)) fun committed last _ hcommitted ↦ ?_
  cases committed with
  | false => exact follows_bind_never (follows_finalizeProviderUnknown hbelongs hfail step _ _)
  | true => exact hrecord last (hcommitted rfl).1 (hcommitted rfl).2

theorem excused_of_request {action : ExternalActionRecord} {failure : Failure}
    (hrequest : externalActionRequest action = .error failure) :
    Excused manager claim failure history := by
  unfold externalActionRequest at hrequest
  split at hrequest
  · split_ifs at hrequest
    exact Except.error.inj hrequest ▸ excused_of_none rfl
  · exact Except.error.inj hrequest ▸ excused_of_code (warranted_of_none rfl)

theorem Dispatched.holdsRequest {action : ExternalActionRecord} {request : ExternalActionRequest}
    (hdispatched : Dispatched manager claim history call action)
    (hrequest : externalActionRequest action = .ok request) :
    HoldsRequest manager claim history call request := by
  obtain ⟨before, deed, row, hbefore, hauthorized, hdeed, rfl⟩ := hdispatched
  exact ⟨before, deed, row, hbefore, hauthorized, hdeed, hrequest⟩

/-- One external call, round by round. -/
theorem follows_dispatchExternalAction (hfail : coordinator.onFail = failLoop)
    (hcarries : Carries claim call invocation step providerName) (rounds : Nat)
    (action : ExternalActionRecord) (dispatchToken : String)
    (hauthorized : Authorized manager claim history call)
    (hvalidated : Validated claim history call)
    (hdispatched : Dispatched manager claim history call action) :
    Follows manager claim 0 (fun _ later ↦ StepDone claim.run.runId step.stepId later)
      (coordinator.dispatchExternalAction registry providerName invocation step attemptToken rounds
        action dispatchToken) history := by
  have hbelongs := hcarries.belongs
  induction rounds generalizing action dispatchToken history with
  | zero => exact follows_unfollowed
  | succ rounds ih =>
    have hretry (later : History) (hlater : history <+: later) :
        Follows manager claim 0 (fun _ last ↦ StepDone claim.run.runId step.stepId last)
          (coordinator.retryOrUnknown invocation step attemptToken
            (coordinator.dispatchExternalAction registry providerName invocation step attemptToken
              rounds) action dispatchToken) later := by
      refine follows_bind (follows_retryAfterAmbiguousResult hfail hcarries
        (hauthorized.mono hlater) action dispatchToken) fun found last hlast hfound ↦ ?_
      cases found with
      | none =>
        exact follows_of_never
          (follows_widen (follows_finalizeProviderUnknown hbelongs hfail step _ _))
      | some pair =>
        exact ih pair.1 pair.2 (hauthorized.mono (hlater.trans hlast))
          (hvalidated.mono (hlater.trans hlast)) (hfound pair.1 pair.2 rfl)
    unfold ExternalActionCoordinator.dispatchExternalAction
    simp only [Program.bind_eq_bind]
    split_ifs
    · exact follows_of_never
        (follows_widen (follows_finalizeReconciliationUnknown hbelongs hfail step _ _))
    · have hrequested : Follows manager claim 0
          (fun request _ ↦ externalActionRequest action = .ok request)
          (ofExcept (externalActionRequest action) : Runtime ExternalActionRequest) history :=
        follows_ofExcept (fun _ hrequest ↦ hrequest) fun _ ↦ excused_of_request
      refine follows_bind hrequested fun request later hlater hrequest ↦ ?_
      refine follows_attempt (follows_dispatchRequest _ _ request
        ⟨call, hcarries.external, hcarries.provider,
          (hdispatched.mono hlater).holdsRequest hrequest, hvalidated.mono hlater⟩)
        fun answer last hlast ↦ ?_
      split
      · exact follows_of_never (follows_recordDefinitiveFailure hbelongs hfail step action _ _)
      · exact hretry last (hlater.trans hlast)
      · exact follows_raise (excused_of_none rfl)
      · split
        · exact follows_widen (follows_recordTrustedResult hbelongs hfail action dispatchToken _ _)
        · exact hretry last (hlater.trans hlast)

/-- An earlier attempt's dispatch is closed or retried. -/
theorem follows_recoverExternalDispatch (hfail : coordinator.onFail = failLoop)
    (hcarries : Carries claim call invocation step providerName) (action : ExternalActionRecord)
    (hauthorized : Authorized manager claim history call)
    (hvalidated : Validated claim history call) :
    Follows manager claim 0 (fun _ later ↦ StepDone claim.run.runId step.stepId later)
      (coordinator.recoverExternalDispatch registry providerName invocation step action
        attemptToken) history := by
  have hbelongs := hcarries.belongs
  unfold ExternalActionCoordinator.recoverExternalDispatch
  simp only [Program.bind_eq_bind]
  split
  · exact follows_pending
  · split_ifs
    · exact follows_of_never (follows_widen (follows_raiseExternalOutcomeUnknown hbelongs hfail step
        _ _ (recordsUnknown_interrupted hbelongs _ _ _ _)))
    · exact follows_of_never
        (follows_widen (follows_finalizeReconciliationUnknown hbelongs hfail step _ _))
    · refine follows_bind (follows_workflowCall ⟨hbelongs.runId, hbelongs.leaseToken⟩)
        fun reply later hlater hdeed ↦ ?_
      refine follows_bind (follows_widen (follows_widen (follows_mirrorEvidence _)))
        fun _ last hlast _ ↦ ?_
      split
      · exact follows_widen (follows_handleExternalTerminal hbelongs hfail step _)
      · have hmore := hlater.trans hlast
        refine follows_dispatchExternalAction hfail hcarries _ _ _ (hauthorized.mono hmore)
          (hvalidated.mono hmore) ?_
        rw [hbelongs.runId, hcarries.step] at hdeed ⊢
        exact ⟨history, _, reply.action, hdeed ▸ hlast, hauthorized, .retried _ _ _ reply rfl, rfl⟩
      · exact follows_widen (follows_failPlainly hbelongs hfail _ rfl)

/-! ### Executing one call -/

/-- The step of an authorized call was restored or is held. -/
def Started (claim : RunLeaseClaim) (call : ToolCall) :
    ExternalActionCoordinator.StepStart → History → Prop
  | .restored _, later => StepDone claim.run.runId call.stepId later
  | .held step _ _, _ => step.stepId = call.stepId

theorem follows_claimExternalStep (hfail : coordinator.onFail = failLoop)
    (hbelongs : Belongs claim invocation.context) (hhash : invocation.inputHash = call.inputHash)
    (hexternal : call.isExternal = true) (hauthorized : Authorized manager claim history call)
    (hobserved : Observed claim.run.runId (call.index - 1) history) :
    Follows manager claim 0 (Started claim call)
      (coordinator.claimExternalStep invocation call.stepId call.decision.toolName) history := by
  unfold ExternalActionCoordinator.claimExternalStep
  simp only [Program.bind_eq_bind, Program.pure_eq_done, Program.throw_eq_raise]
  refine follows_bind (follows_workflowCall ⟨hbelongs.runId, hbelongs.leaseToken, call,
    hauthorized, rfl, rfl, hhash, by rw [hexternal]; rfl, hbelongs.runId ▸ hobserved⟩)
    fun reply later _ hdeed ↦ ?_
  split
  · have hknows : KnowsStep claim later
        (ToolCallRecord.of claim.run.runId call.stepId reply.step) := by
      rw [hbelongs.runId] at hdeed
      exact ⟨rfl, _, hdeed ▸ List.mem_append_right _ (List.mem_singleton_self _),
        .claimed _ _ _ _ reply rfl⟩
    rw [hbelongs.runId]
    exact follows_bind (follows_restoreSuccess hbelongs hfail hknows)
      fun _ _ _ hdone ↦ follows_done hdone
  · exact follows_failPlainly hbelongs hfail _ rfl
  · exact follows_failPlainly hbelongs hfail _ rfl
  · exact follows_failPlainly hbelongs hfail _ rfl
  · exact follows_failPlainly hbelongs hfail _ rfl
  · exact follows_done rfl
  · exact follows_raise (excused_of_none rfl)

theorem follows_startStep (hfail : coordinator.onFail = failLoop)
    (hbelongs : Belongs claim invocation.context) (hhash : invocation.inputHash = call.inputHash)
    (hexternal : call.isExternal = true) (hauthorized : Authorized manager claim history call)
    (hobserved : Observed claim.run.runId (call.index - 1) history) :
    Follows manager claim 0 (Started claim call)
      (coordinator.startStep invocation call.stepId call.decision.toolName) history := by
  have hclaim (later : History) (hlater : history <+: later) :
      Follows manager claim 0 (Started claim call)
        (coordinator.claimExternalStep invocation call.stepId call.decision.toolName) later :=
    follows_claimExternalStep hfail hbelongs hhash hexternal (hauthorized.mono hlater)
      (hobserved.mono hlater)
  unfold ExternalActionCoordinator.startStep
  simp only [Program.bind_eq_bind, Program.pure_eq_done, Program.throw_eq_raise]
  refine follows_bind (follows_widen (follows_getStep hbelongs _))
    fun found later hlater hfound ↦ ?_
  split
  · exact hclaim later hlater
  · next existing =>
    obtain ⟨hid, hknows⟩ := hfound existing rfl
    split
    · refine follows_bind (follows_restoreSuccess hbelongs hfail hknows)
        fun _ _ _ hdone ↦ follows_done ?_
      rw [hid] at hdone
      exact hdone
    · exact follows_of_never (follows_restoreFailure hbelongs hfail _)
    · split_ifs
      · exact follows_failPlainly hbelongs hfail _ rfl
      · split
        · exact follows_pending
        · exact follows_done hid
    · exact hclaim later hlater

theorem follows_rejectPrepared (hbelongs : Belongs claim context)
    (hfail : coordinator.onFail = failLoop) (step : ToolCallRecord)
    (prepared : Option ExternalActionRecord) :
    Follows manager claim 0 (fun _ _ ↦ False)
      (coordinator.rejectPrepared context step prepared : Plain α) history := by
  have hreject (mismatched : Option ExternalActionRecord) (later : History) :
      Follows manager claim 0 (fun _ _ ↦ False)
        (mismatched.elim
          (coordinator.fail context "invalid_planner_decision"
            "Persisted external action binding does not match this execution." : Plain α)
          fun action ↦ if action.status = .dispatching then
              (coordinator.failExternalDispatchBinding context step action :
                Plain Unit).bind fun _ ↦
                coordinator.fail context "invalid_planner_decision"
                  "Persisted external action binding does not match this execution."
            else coordinator.fail context "invalid_planner_decision"
              "Persisted external action binding does not match this execution.") later := by
    cases mismatched with
    | none => exact follows_failPlainly hbelongs hfail _ rfl
    | some action =>
      dsimp only [Option.elim_some]
      split_ifs
      · exact follows_bind_never (follows_failExternalDispatchBinding hbelongs hfail _ _)
      · exact follows_failPlainly hbelongs hfail _ rfl
  unfold ExternalActionCoordinator.rejectPrepared
  simp only [Program.bind_eq_bind, Program.pure_eq_done, Program.done_bind]
  split
  · next action => exact hreject (some action) history
  · refine follows_attempt (follows_widen (follows_getExternalAction hbelongs _))
      fun result later _ ↦ ?_
    split
    · next found =>
      cases found with
      | none => exact hreject none later
      | some action => exact hreject (some action) later
    · exact hreject none later

theorem validated_of_binding {action : ExternalActionRecord} {identity : Option String}
    (hcarries : Carries claim call invocation step providerName)
    (hknows : KnowsAction claim history action) (hid : action.stepId = call.stepId)
    (hmatches : coordinator.bindingMatches invocation step action identity = true) :
    Validated claim history call := by
  obtain ⟨-, deed, hdeed, hshows⟩ := hknows
  have hcolumns := of_decide_eq_true (Bool.and_eq_true_iff.mp hmatches).1
  refine ⟨deed, hdeed, action.toExternalActionRow, hid ▸ hshows, ?_⟩
  rw [← hcarries.arguments]
  exact hcolumns.2.2.2.2.2.2.2.2.2.1

theorem follows_prepareAction (hfail : coordinator.onFail = failLoop)
    (hcarries : Carries claim call invocation step providerName) (providerIdentity : String)
    (recovered : Bool) (hauthorized : Authorized manager claim history call) :
    Follows manager claim 0
      (fun _ later ↦ Validated claim later call)
      (coordinator.prepareAction invocation call.decision.toolName providerName providerIdentity
        step attemptToken recovered) history := by
  have hbelongs := hcarries.belongs
  unfold ExternalActionCoordinator.prepareAction
  simp only [Program.bind_eq_bind, Program.pure_eq_done, Program.throw_eq_raise]
  refine follows_try (follows_workflowCall ⟨hbelongs.runId, hbelongs.leaseToken, call,
    hauthorized, hcarries.step, rfl, hcarries.external⟩) (fun reply later _ hdeed ↦ ?_)
    fun failure later _ _ ↦ ?_
  · dsimp only
    have hknows (row : ExternalActionRow) (hrow : reply.action = some row) :
        KnowsAction claim later (.of claim.run.runId call.stepId row) := by
      rw [hbelongs.runId, hcarries.step] at hdeed
      exact ⟨rfl, _, hdeed ▸ List.mem_append_right _ (List.mem_singleton_self _),
        .prepared _ _ _ reply hrow⟩
    refine follows_bind (follows_widen (follows_mirrorEvidence _)) fun _ mirrored hmirrored _ ↦ ?_
    split
    · exact follows_of_never (follows_rejectPrepared hbelongs hfail _ _)
    · exact follows_of_never (follows_rejectPrepared hbelongs hfail _ _)
    · exact follows_raise (excused_of_none rfl)
    · next action hsome _ _ =>
      obtain ⟨row, hrow, rfl⟩ := Option.map_eq_some_iff.mp hsome
      rw [hbelongs.runId, hcarries.step]
      have hshown := (hknows row hrow).mono hmirrored
      refine follows_bind (follows_validateExternalActionBinding hbelongs hfail step
        (some providerIdentity) hshown) fun _ valid hvalid hmatches ↦ ?_
      split
      · exact follows_done (validated_of_binding hcarries (hshown.mono hvalid) rfl hmatches)
      · split_ifs
        · exact follows_bind_never (follows_failExternalDispatchBinding hbelongs hfail _ _)
        · exact follows_failPlainly hbelongs hfail _ rfl
  · dsimp only
    split_ifs
    · exact follows_pending
    · exact follows_failPlainly hbelongs hfail _ rfl

theorem follows_settleAction (hfail : coordinator.onFail = failLoop)
    (hcarries : Carries claim call invocation step providerName) (recovered : Bool)
    (action : ExternalActionRecord) (hauthorized : Authorized manager claim history call)
    (hvalidated : Validated claim history call) :
    Follows manager claim 0 (fun _ later ↦ StepDone claim.run.runId step.stepId later)
      (coordinator.settleAction registry providerName invocation step attemptToken recovered
        action) history := by
  have hbelongs := hcarries.belongs
  unfold ExternalActionCoordinator.settleAction
  simp only [Program.bind_eq_bind]
  split
  · refine follows_bind (follows_workflowCall ⟨hbelongs.runId, hbelongs.leaseToken⟩)
      fun reply later hlater hdeed ↦ ?_
    refine follows_bind (follows_widen (follows_widen (follows_mirrorEvidence _)))
      fun _ last hlast _ ↦ ?_
    split
    · exact follows_raise (excused_of_code (warranted_of_none rfl))
    · exact follows_widen (follows_handleExternalTerminal hbelongs hfail step _)
    · have hmore := hlater.trans hlast
      refine follows_dispatchExternalAction hfail hcarries _ _ _ (hauthorized.mono hmore)
        (hvalidated.mono hmore) ?_
      rw [hbelongs.runId, hcarries.step] at hdeed ⊢
      exact ⟨history, _, reply.action, hdeed ▸ hlast, hauthorized, .begun _ _ reply rfl, rfl⟩
    · exact follows_widen (follows_failPlainly hbelongs hfail _ rfl)
    · exact follows_widen (follows_failPlainly hbelongs hfail _ rfl)
  · split_ifs
    · exact follows_recoverExternalDispatch hfail hcarries action hauthorized hvalidated
    · exact follows_widen (follows_failPlainly hbelongs hfail _ rfl)
  · exact follows_widen (follows_handleExternalTerminal hbelongs hfail step _)

/-- `execute` returns with the step of its call completed. -/
theorem follows_executeExternal (hbelongs : Belongs claim context)
    (hexternal : call.isExternal = true) (hauthorized : Authorized manager claim history call)
    (hobserved : Observed claim.run.runId (call.index - 1) history) :
    Follows manager claim 0 (fun _ later ↦ StepDone claim.run.runId call.stepId later)
      (call.loop.coordinator.execute context call.decision.toolName call.spec call.stepId
        call.normalized) history := by
  unfold ExternalActionCoordinator.execute
  simp only [Program.bind_eq_bind, Program.pure_eq_done]
  split
  · exact follows_widen (follows_failPlainly hbelongs rfl _ rfl)
  · next providerName registry providerIdentity hrouted =>
    have hprovider : call.spec.providerName = some providerName := by
      cases hname : call.spec.providerName with
      | none => simp [hname] at hrouted
      | some name =>
        simp only [hname, Option.bind_eq_bind, Option.bind_some, Option.bind_eq_some_iff,
          Option.pure_def, Option.some.injEq, Prod.mk.injEq] at hrouted
        obtain ⟨-, -, -, -, rfl, -⟩ := hrouted
        rfl
    refine follows_bind (follows_widen (follows_startStep rfl hbelongs rfl hexternal hauthorized
      hobserved)) fun start later hlater hstarted ↦ ?_
    cases start with
    | restored observation => exact follows_done hstarted
    | held step attemptToken recovered =>
      have hcarries : Carries claim call
          { context := context
            spec := call.spec
            normalizedArguments := call.normalized
            inputHash := call.loop.coordinator.stableHash call.normalized
            idempotencyKey := call.loop.coordinator.idempotencyKey context call.stepId
              call.decision.toolName (call.loop.coordinator.stableHash call.normalized) } step
          providerName :=
        ⟨hbelongs, rfl, hstarted, hprovider, hexternal⟩
      have hmore := hauthorized.mono hlater
      refine follows_bind (follows_widen (follows_prepareAction rfl hcarries providerIdentity
        recovered hmore)) fun action last hlast hvalidated ↦ ?_
      refine follows_mono (follows_settleAction rfl hcarries recovered action (hmore.mono hlast)
        hvalidated) fun _ _ _ hdone ↦ ?_
      rw [hcarries.step] at hdone
      exact hdone

end Coordinator

end AgentRuntime.Execution
