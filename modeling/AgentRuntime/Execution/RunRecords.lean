import AgentRuntime.Execution.AttemptRecords

/-!
# What the ledger of a Run says

`Sound` collects what holds of the workflow ledger when every attempt keeps to its conduct. A step
stands on a recorded decision to call its tool and on a recorded policy decision that allowed it;
steps are claimed in order, each after the earlier ones were completed; an action belongs to a step
of an external write; codes that speak of external actions stand where an action is; and an
execution that ended with a result has no open step. `Permitted` says of one call what has to hold
of the ledger for the call to keep this, and `sound_of_perform` that it does, with one lemma for
each field.
-/

set_option autoImplicit false
set_option relaxedAutoImplicit false

namespace AgentRuntime.Execution

open Library Store

/-! ### Step ids -/

/-- The digits of an index with their padding read as the index. -/
theorem callStepId_injective : Function.Injective callStepId := by
  have hvalue (index : Nat) :
      Nat.ofDigitChars 10 ((callStepId index).toList.drop 5) 0 = index := by
    have htext : (callStepId index).toList.drop 5 =
        List.replicate (4 - (toString index).length) '0' ++ Nat.toDigits 10 index := by
      simp [callStepId]
    rw [htext, Nat.ofDigitChars_append, Nat.ofDigitChars_replicate_zero, Nat.mul_zero,
      Nat.ofDigitChars_ten_toDigits]
  intro first second heq
  rw [← hvalue first, heq, hvalue second]

/-! ### Calls that stand -/

/-- The log of a Run holds a policy decision that allowed the step. -/
def StepAllowed (db : Database) (runId stepId : String) : Prop :=
  ∃ payload, Recorded db runId "policy.decision" ("policy:" ++ stepId) payload ∧
    payload.get? "outcome" = some (.str "allowed")

theorem StepAllowed.mono {db after : Database} {runId stepId : String}
    (hallowed : StepAllowed db runId stepId) (hages : Ages db after) :
    StepAllowed after runId stepId := by
  obtain ⟨payload, hrecorded, houtcome⟩ := hallowed
  exact ⟨payload, hrecorded.mono hages, houtcome⟩

/-- The call was decided for the Run and allowed, by a loop that serves one of its claims. -/
structure Stands (manager : RuntimeManager) (claims : List RunLeaseClaim) (db : Database)
    (runId : String) (call : ToolCall) : Prop where
  claimed : ∃ claim ∈ claims, claim.run.runId = runId ∧ Serves manager claim call.loop
  decided : DecisionRecorded db runId call.index (.callTool call.decision)
  limit : 1 ≤ call.index ∧ call.index ≤ call.loop.maxToolCalls
  registered : call.loop.toolRegistry call.decision.toolName = some call.spec
  allowed : StepAllowed db runId call.stepId

/-- All claims of a Run are served by one runtime. -/
def OneRuntime (manager : RuntimeManager) (claims : List RunLeaseClaim) : Prop :=
  ∀ claim ∈ claims, ∀ other ∈ claims, claim.run.runId = other.run.runId →
    manager.registrationFor claim.run = manager.registrationFor other.run

section Stands

variable {manager : RuntimeManager} {claims more : List RunLeaseClaim} {db after : Database}
  {runId : String} {call other : ToolCall}

theorem Stands.mono (hstands : Stands manager claims db runId call) (hmore : claims ⊆ more)
    (hages : Ages db after) : Stands manager more after runId call := by
  obtain ⟨claim, hmem, hrun, hserves⟩ := hstands.claimed
  exact
    { hstands with
      claimed := ⟨claim, hmore hmem, hrun, hserves⟩
      decided := hstands.decided.mono hages
      allowed := hstands.allowed.mono hages }

/-- The loop of a standing call serves every claim of its Run. -/
theorem Stands.serves_eq {claim : RunLeaseClaim} {loop : DynamicToolLoop}
    (hstands : Stands manager claims db claim.run.runId call) (hclaim : claim ∈ claims)
    (hserves : Serves manager claim loop) (hone : OneRuntime manager claims) :
    loop = call.loop := by
  obtain ⟨registration, hregistration, hloop⟩ := hserves
  obtain ⟨twin, htwin, hrun, second, hsecond, hsecondLoop⟩ := hstands.claimed
  have hsame := hone claim hclaim twin htwin hrun.symm
  rw [hregistration, hsecond] at hsame
  rw [← hloop, ← hsecondLoop, Except.ok.inj hsame]

theorem Stands.loop_eq (hstands : Stands manager claims db runId call)
    (hother : Stands manager claims db runId other) (hone : OneRuntime manager claims) :
    call.loop = other.loop := by
  obtain ⟨claim, hclaim, rfl, hserves⟩ := hstands.claimed
  exact hother.serves_eq hclaim hserves hone

/-- The calls of one step are calls of one tool. -/
theorem Stands.isExternal_eq (hstands : Stands manager claims db runId call)
    (hother : Stands manager claims db runId other) (hone : OneRuntime manager claims)
    (hstep : call.stepId = other.stepId) : call.isExternal = other.isExternal := by
  have hindex : call.index = other.index := callStepId_injective hstep
  have hdecision : call.decision = other.decision := by
    have hdecided := hother.decided
    rw [← hindex] at hdecided
    exact PlannerDecision.callTool.inj (hstands.decided.unique hdecided)
  have hspec : call.spec = other.spec := by
    have hregistered := hother.registered
    rw [← hstands.loop_eq hother hone, ← hdecision, hstands.registered] at hregistered
    exact Option.some.inj hregistered
  unfold ToolCall.isExternal
  rw [hspec]

end Stands

/-! ### The invariant -/

/-- What an event of the workflow log may say. -/
structure EventSound (db : Database) (event : EventRow) : Prop where
  planner : event.eventType = "planner.decision" →
    ∀ code, event.payload.getD "error_code" = .str code → reportedStatus code = none
  policy : event.eventType = "policy.decision" → (event.payload.get? "outcome").isSome = true
  result : event.eventType = "tool.result" → ∀ stepId code status,
    event.payload.getD "step_id" = .str stepId → event.payload.getD "error_code" = .str code →
      reportedStatus code = some status → ActionIn db event.runId stepId status
  completed : event.eventType = "tool.result" → ∀ stepId,
    event.payload.getD "step_id" = .str stepId →
      event.payload.getD "status" = .str "completed" →
        StepCompleted db event.runId stepId ∨ ActionIn db event.runId stepId .succeeded

/-- What holds of the workflow ledger. -/
structure Sound (manager : RuntimeManager) (claims : List RunLeaseClaim) (db : Database) :
    Prop where
  evidence : EvidenceInOrder db
  steps : ∀ runId stepId row, db.toolCalls.find (runId, stepId) = some row →
    ∃ call, Stands manager claims db runId call ∧ stepId = call.stepId ∧
      row.toolName = call.decision.toolName
  order : ∀ runId index row, db.toolCalls.find (runId, callStepId index) = some row →
    ∀ earlier, 1 ≤ earlier → earlier < index → StepCompleted db runId (callStepId earlier)
  actions : ∀ runId stepId row, db.externalActions.find (runId, stepId) = some row →
    ∃ call, Stands manager claims db runId call ∧ stepId = call.stepId ∧ call.isExternal = true
  codes : ∀ key row code, db.toolCalls.find key = some row → row.errorCode = some code →
    (reportedStatus code).isSome = true → (db.externalActions.find key).isSome = true
  events : ∀ event ∈ db.workflowEvents, EventSound db event
  concluded : ∀ runId, ExecutionConcluded db runId → LoopEnded db runId
  ends : ∀ runId stepId, stepEndEvents db runId stepId ≠ [] →
    (db.externalActions.find (runId, stepId)).isSome = true ∨
      ∃ call, Stands manager claims db runId call ∧ stepId = call.stepId ∧
        call.isExternal = false

theorem sound_empty (manager : RuntimeManager) (claims : List RunLeaseClaim) :
    Sound manager claims Database.empty where
  evidence := evidenceInOrder_empty
  steps runId stepId row hfind := by cases hfind
  order runId index row hfind := by cases hfind
  actions runId stepId row hfind := by cases hfind
  codes key row code hfind := by cases hfind
  events event hmem := by cases hmem
  concluded runId hconcluded := by
    obtain ⟨row, hfind, -⟩ := hconcluded
    cases hfind
  ends runId stepId hends := (hends rfl).elim

theorem reportedStatus_terminal {code : String} {status : ExternalActionStatus}
    (hreported : reportedStatus code = some status) : status.isTerminal = true := by
  unfold reportedStatus at hreported
  split at hreported <;> first | cases hreported; rfl | cases hreported

theorem EventSound.mono {db after : Database} {event : EventRow} (hsound : EventSound db event)
    (hages : Ages db after) : EventSound after event where
  planner := hsound.planner
  policy := hsound.policy
  result htype stepId code status hstep hcode hreported :=
    (hsound.result htype stepId code status hstep hcode hreported).mono
      (reportedStatus_terminal hreported) hages
  completed htype stepId hstep hstatus :=
    (hsound.completed htype stepId hstep hstatus).imp (fun hcompleted ↦ hcompleted.mono hages)
      fun hin ↦ hin.mono rfl hages

/-! ### Permitted calls -/

/-- The call is of a standing call of a read-only tool. -/
def ReadOnlyStep (manager : RuntimeManager) (claims : List RunLeaseClaim) (db : Database)
    (runId stepId : String) : Prop :=
  ∃ call, Stands manager claims db runId call ∧ stepId = call.stepId ∧ call.isExternal = false

/-- What has to hold of the ledger for a call. -/
def Permitted (manager : RuntimeManager) (claims : List RunLeaseClaim) (db : Database) :
    WorkflowCall → Prop
  | .finalizeReady runId _ _ | .finalizeBlocked runId _ _ _ => LoopEnded db runId
  | .reuseCompletedStep .. => False
  | .claimStep runId stepId toolName _ maxAttempts _ =>
    ∃ call, Stands manager claims db runId call ∧ stepId = call.stepId ∧
      toolName = call.decision.toolName ∧ (call.isExternal = true → maxAttempts = 1) ∧
      ∀ index, 1 ≤ index → index < call.index → StepCompleted db runId (callStepId index)
  | .completeStep runId stepId _ _ _ | .recoverInterruptedStep runId stepId _ =>
    ReadOnlyStep manager claims db runId stepId
  | .failStep runId stepId _ code _ =>
    ReadOnlyStep manager claims db runId stepId ∧ reportedStatus code = none
  | .prepareExternalAction runId stepId _ _ _ =>
    ∃ call, Stands manager claims db runId call ∧ stepId = call.stepId ∧ call.isExternal = true
  | .appendEvent runId eventType payload _ => eventType ∈ mirroredEventTypes ∧
    ∀ event : EventRow, event.runId = runId → event.eventType = eventType →
      event.payload = payload → EventSound db event
  | _ => True

section Preservation

variable {manager : RuntimeManager} {claims : List RunLeaseClaim} {db after : Database}
  {reading : Reading} {call : WorkflowCall} {reply : call.Reply}

/-- A step of a read-only tool has no action. -/
theorem Sound.noAction (hsound : Sound manager claims db) (hone : OneRuntime manager claims)
    {runId stepId : String} (hreadOnly : ReadOnlyStep manager claims db runId stepId) :
    db.externalActions.find (runId, stepId) = none := by
  cases hfind : db.externalActions.find (runId, stepId) with
  | none => rfl
  | some row =>
    obtain ⟨call, hstands, hstep, hinternal⟩ := hreadOnly
    obtain ⟨other, hother, hotherStep, hexternal⟩ := hsound.actions runId stepId row hfind
    have hsame := hstands.isExternal_eq hother hone (hstep.symm.trans hotherStep)
    rw [hinternal, hexternal] at hsame
    cases hsame

theorem mirrored_not_end : ∀ eventType ∈ mirroredEventTypes,
    isOutcomeType eventType = false ∧ isStepEndType eventType = false ∧
      eventType ≠ "external_action.dispatch_started" := by decide

theorem keepsParent_of_permitted (hsound : Sound manager claims db)
    (hone : OneRuntime manager claims) (hpermitted : Permitted manager claims db call) :
    call.keepsParent db = true := by
  cases call with
  | claimStep runId stepId toolName inputHash maxAttempts token =>
    obtain ⟨tool, hstands, rfl, -, hattempts, -⟩ := hpermitted
    cases hexternal : tool.isExternal with
    | true => simp [WorkflowCall.keepsParent, hattempts hexternal]
    | false =>
      have hnone := hsound.noAction hone ⟨tool, hstands, rfl, hexternal⟩
      simp [WorkflowCall.keepsParent, hnone]
  | completeStep | recoverInterruptedStep =>
    simp [WorkflowCall.keepsParent, hsound.noAction hone hpermitted]
  | failStep => simp [WorkflowCall.keepsParent, hsound.noAction hone hpermitted.1]
  | appendEvent runId eventType payload token =>
    simpa [WorkflowCall.keepsParent] using (mirrored_not_end eventType hpermitted.1).2.2
  | _ => rfl

theorem keepsEvidence_of_permitted (hsound : Sound manager claims db)
    (hone : OneRuntime manager claims) (hpermitted : Permitted manager claims db call) :
    call.keepsEvidence db = true := by
  cases call with
  | prepareExternalAction runId stepId attempt identity token =>
    obtain ⟨tool, hstands, rfl, hexternal⟩ := hpermitted
    by_cases hends : stepEndEvents db runId tool.stepId = []
    · simp [WorkflowCall.keepsEvidence, hends]
    · rcases hsound.ends runId tool.stepId hends with hsome | ⟨other, hother, hstep, hinternal⟩
      · simp [WorkflowCall.keepsEvidence, hsome]
      · have hsame := hstands.isExternal_eq hother hone hstep
        rw [hexternal, hinternal] at hsame
        cases hsame
  | appendEvent runId eventType payload token =>
    obtain ⟨houtcome, hend, -⟩ := mirrored_not_end eventType hpermitted.1
    simp [WorkflowCall.keepsEvidence, houtcome, hend]
  | _ => rfl

theorem steps_of_perform (hsound : Sound manager claims db)
    (hpermitted : Permitted manager claims db call)
    (hok : call.perform db reading = .ok (reply, after)) {runId stepId : String}
    {row : ToolCallRow} (hfind : after.toolCalls.find (runId, stepId) = some row) :
    ∃ tool, Stands manager claims after runId tool ∧ stepId = tool.stepId ∧
      row.toolName = tool.decision.toolName := by
  have hages := ages_of_perform hok
  cases hold : db.toolCalls.find (runId, stepId) with
  | some old =>
    obtain ⟨next, hnext, hsame, -⟩ := hages.steps _ old hold
    obtain rfl : next = row := Option.some.inj (hnext.symm.trans hfind)
    obtain ⟨tool, hstands, hstep, hname⟩ := hsound.steps runId stepId old hold
    exact ⟨tool, hstands.mono (List.Subset.refl _) hages, hstep, hsame.toolName.trans hname⟩
  | none =>
    rcases freshStep_of_workflow (workflowChange_of_perform hok) hold hfind with
      ⟨toolName, inputHash, maxAttempts, token, rfl, hname⟩ |
      ⟨source, toolName, inputHash, token, rfl⟩
    · obtain ⟨tool, hstands, hstep, htool, -⟩ := hpermitted
      exact ⟨tool, hstands.mono (List.Subset.refl _) hages, hstep, hname.trans htool⟩
    · exact hpermitted.elim

theorem order_of_perform (hsound : Sound manager claims db)
    (hpermitted : Permitted manager claims db call)
    (hok : call.perform db reading = .ok (reply, after)) {runId : String} {index : Nat}
    {row : ToolCallRow} (hfind : after.toolCalls.find (runId, callStepId index) = some row)
    {earlier : Nat} (hpos : 1 ≤ earlier) (hlt : earlier < index) :
    StepCompleted after runId (callStepId earlier) := by
  have hages := ages_of_perform hok
  cases hold : db.toolCalls.find (runId, callStepId index) with
  | some old => exact (hsound.order runId index old hold earlier hpos hlt).mono hages
  | none =>
    rcases freshStep_of_workflow (workflowChange_of_perform hok) hold hfind with
      ⟨toolName, inputHash, maxAttempts, token, rfl, hname⟩ |
      ⟨source, toolName, inputHash, token, rfl⟩
    · obtain ⟨tool, hstands, hstep, -, -, hcompleted⟩ := hpermitted
      have hindex : index = tool.index := callStepId_injective hstep
      exact (hcompleted earlier hpos (hindex ▸ hlt)).mono hages
    · exact hpermitted.elim

theorem actions_of_perform (hsound : Sound manager claims db)
    (hpermitted : Permitted manager claims db call)
    (hok : call.perform db reading = .ok (reply, after)) {runId stepId : String}
    {row : ExternalActionRow} (hfind : after.externalActions.find (runId, stepId) = some row) :
    ∃ tool, Stands manager claims after runId tool ∧ stepId = tool.stepId ∧
      tool.isExternal = true := by
  have hages := ages_of_perform hok
  cases hold : db.externalActions.find (runId, stepId) with
  | some old =>
    obtain ⟨tool, hstands, hrest⟩ := hsound.actions runId stepId old hold
    exact ⟨tool, hstands.mono (List.Subset.refl _) hages, hrest⟩
  | none =>
    obtain ⟨attempt, identity, token, rfl⟩ :=
      freshAction_of_workflow (workflowChange_of_perform hok) hold hfind
    obtain ⟨tool, hstands, hrest⟩ := hpermitted
    exact ⟨tool, hstands.mono (List.Subset.refl _) hages, hrest⟩

theorem codes_of_perform (hsound : Sound manager claims db)
    (hpermitted : Permitted manager claims db call)
    (hok : call.perform db reading = .ok (reply, after)) {key : String × String}
    {row : ToolCallRow} {code : String} (hfind : after.toolCalls.find key = some row)
    (hcode : row.errorCode = some code) (hreported : (reportedStatus code).isSome = true) :
    (after.externalActions.find key).isSome = true := by
  have hages := ages_of_perform hok
  rcases stepCode_of_workflow (workflowChange_of_perform hok) hfind hcode with
    ⟨old, hold, holdCode⟩ | ⟨attempt, token, rfl⟩ | rfl | haction
  · exact action_mono (hsound.codes key old code hold holdCode hreported) hages
  · rw [hpermitted.2] at hreported
    cases hreported
  · cases hreported
  · exact action_mono haction hages

theorem events_of_perform (hsound : Sound manager claims db)
    (hpermitted : Permitted manager claims db call)
    (hok : call.perform db reading = .ok (reply, after)) {event : EventRow}
    (hmem : event ∈ after.workflowEvents) : EventSound after event := by
  have hages := ages_of_perform hok
  obtain ⟨events, hlog, horigin⟩ := grows_of_workflow (workflowChange_of_perform hok)
  have hplain (htype : event.eventType ∉ mirroredEventTypes) : EventSound after event := by
    refine ⟨fun heq ↦ (htype ?_).elim, fun heq ↦ (htype ?_).elim, fun heq ↦ (htype ?_).elim,
      fun heq ↦ (htype ?_).elim⟩
    · rw [heq]; decide
    · rw [heq]; decide
    · rw [heq]; decide
    · rw [heq]; decide
  rw [hlog, List.mem_append] at hmem
  rcases hmem with hold | hnew
  · exact (hsound.events event hold).mono hages
  · cases (horigin event hnew).2 with
    | action htype =>
      refine hplain fun hmirrored ↦ ?_
      have hquiet : ∀ eventType ∈ mirroredEventTypes, isActionType eventType = false := by decide
      rw [hquiet _ hmirrored] at htype
      cases htype
    | ledger htype =>
      have hquiet : ∀ eventType ∈ ledgerEventTypes, eventType ∉ mirroredEventTypes := by decide
      exact hplain (hquiet _ htype)
    | caller token hcall =>
      subst hcall
      exact (hpermitted.2 event rfl rfl rfl).mono hages

theorem concluded_of_perform (hsound : Sound manager claims db)
    (hpermitted : Permitted manager claims db call)
    (hok : call.perform db reading = .ok (reply, after)) {runId : String}
    (hconcluded : ExecutionConcluded after runId) : LoopEnded after runId := by
  have hages := ages_of_perform hok
  obtain ⟨row, hfind, hstatus⟩ := hconcluded
  rcases verdict_of_workflow (workflowChange_of_perform hok) hfind
    (isTerminal_of_isConcluded hstatus) with hold | ⟨eventType, result, hverdict⟩
  · exact (hsound.concluded runId ⟨row, hold, hstatus⟩).mono hages
  · cases call with
    | finalizeReady other | finalizeBlocked other =>
      have hrun : other = runId := by
        simp only [WorkflowCall.verdict, Option.some.injEq, Prod.mk.injEq] at hverdict
        exact hverdict.1
      subst hrun
      exact hpermitted.mono hages
    | finalizeFailed =>
      simp only [WorkflowCall.verdict, Option.some.injEq, Prod.mk.injEq] at hverdict
      rw [← hverdict.2.1] at hstatus
      cases hstatus
    | _ => cases hverdict

theorem ends_of_perform (hsound : Sound manager claims db)
    (hpermitted : Permitted manager claims db call)
    (hok : call.perform db reading = .ok (reply, after)) {runId stepId : String}
    (hends : stepEndEvents after runId stepId ≠ []) :
    (after.externalActions.find (runId, stepId)).isSome = true ∨
      ReadOnlyStep manager claims after runId stepId := by
  have hages := ages_of_perform hok
  have hreadOnly (hstep : ReadOnlyStep manager claims db runId stepId) :
      ReadOnlyStep manager claims after runId stepId := by
    obtain ⟨tool, hstands, hrest⟩ := hstep
    exact ⟨tool, hstands.mono (List.Subset.refl _) hages, hrest⟩
  rcases stepEnd_of_workflow (workflowChange_of_perform hok) hends with
    hold | ⟨attempt, result, token, rfl⟩ | ⟨attempt, code, token, rfl⟩ |
      ⟨eventType, payload, token, rfl, htype⟩ | haction
  · rcases hsound.ends runId stepId hold with haction | hstep
    · exact .inl (action_mono haction hages)
    · exact .inr (hreadOnly hstep)
  · exact .inr (hreadOnly hpermitted)
  · exact .inr (hreadOnly hpermitted.1)
  · rw [(mirrored_not_end eventType hpermitted.1).2.1] at htype
    cases htype
  · exact .inl (action_mono haction hages)

/-- A permitted call keeps the ledger sound. -/
theorem sound_of_perform (hsound : Sound manager claims db) (hone : OneRuntime manager claims)
    (hpermitted : Permitted manager claims db call)
    (hok : call.perform db reading = .ok (reply, after)) : Sound manager claims after where
  evidence := evidenceInOrder_of_workflow hsound.evidence hok
    (keepsParent_of_permitted hsound hone hpermitted)
    (keepsEvidence_of_permitted hsound hone hpermitted)
  steps _ _ _ hfind := steps_of_perform hsound hpermitted hok hfind
  order _ _ _ hfind _ hpos hlt := order_of_perform hsound hpermitted hok hfind hpos hlt
  actions _ _ _ hfind := actions_of_perform hsound hpermitted hok hfind
  codes _ _ _ hfind hcode hreported := codes_of_perform hsound hpermitted hok hfind hcode hreported
  events _ hmem := events_of_perform hsound hpermitted hok hmem
  concluded _ hconcluded := concluded_of_perform hsound hpermitted hok hconcluded
  ends _ _ hends := ends_of_perform hsound hpermitted hok hends

/-- A change outside the ledger keeps it sound. -/
theorem Sound.sameLedger (hsound : Sound manager claims db) (hsame : SameLedger db after)
    (hevidence : EvidenceInOrder after) : Sound manager claims after := by
  have hages := ages_of_sameLedger hsame
  have hstands {runId : String} {tool : ToolCall} (hstands : Stands manager claims db runId tool) :
      Stands manager claims after runId tool := hstands.mono (List.Subset.refl _) hages
  refine
    { evidence := hevidence
      steps := fun runId stepId row hfind ↦ ?_
      order := fun runId index row hfind earlier hpos hlt ↦ ?_
      actions := fun runId stepId row hfind ↦ ?_
      codes := fun key row code hfind hcode hreported ↦ ?_
      events := fun event hmem ↦ ?_
      concluded := fun runId hconcluded ↦ ?_
      ends := fun runId stepId hends ↦ ?_ }
  · rw [hsame.2.1] at hfind
    obtain ⟨tool, htool, hrest⟩ := hsound.steps runId stepId row hfind
    exact ⟨tool, hstands htool, hrest⟩
  · rw [hsame.2.1] at hfind
    exact (hsound.order runId index row hfind earlier hpos hlt).mono hages
  · rw [hsame.2.2.1] at hfind
    obtain ⟨tool, htool, hrest⟩ := hsound.actions runId stepId row hfind
    exact ⟨tool, hstands htool, hrest⟩
  · rw [hsame.2.1] at hfind
    exact action_mono (hsound.codes key row code hfind hcode hreported) hages
  · rw [hsame.2.2.2] at hmem
    exact (hsound.events event hmem).mono hages
  · obtain ⟨row, hfind, hstatus⟩ := hconcluded
    rw [hsame.1] at hfind
    exact (hsound.concluded runId ⟨row, hfind, hstatus⟩).mono hages
  · have hold : stepEndEvents db runId stepId ≠ [] := by
      unfold stepEndEvents at hends ⊢
      rwa [hsame.2.2.2] at hends
    rcases hsound.ends runId stepId hold with haction | ⟨tool, htool, hrest⟩
    · exact .inl (action_mono haction hages)
    · exact .inr ⟨tool, hstands htool, hrest⟩

theorem Sound.moreClaims {more : List RunLeaseClaim} (hsound : Sound manager claims db)
    (hmore : claims ⊆ more) : Sound manager more db := by
  have hstands {runId : String} {tool : ToolCall} (hstands : Stands manager claims db runId tool) :
      Stands manager more db runId tool := hstands.mono hmore (.refl db)
  refine
    { hsound with
      steps := fun runId stepId row hfind ↦ ?_
      actions := fun runId stepId row hfind ↦ ?_
      ends := fun runId stepId hends ↦ ?_ }
  · obtain ⟨tool, htool, hrest⟩ := hsound.steps runId stepId row hfind
    exact ⟨tool, hstands htool, hrest⟩
  · obtain ⟨tool, htool, hrest⟩ := hsound.actions runId stepId row hfind
    exact ⟨tool, hstands htool, hrest⟩
  · rcases hsound.ends runId stepId hends with haction | ⟨tool, htool, hrest⟩
    · exact .inl haction
    · exact .inr ⟨tool, hstands htool, hrest⟩

/-- A request that leaves the ledger alone keeps the evidence in order. -/
theorem evidenceInOrder_of_request {hasher : Hasher} {request : Request}
    (horder : EvidenceInOrder db) (hsame : SameLedger db (request.apply hasher db)) :
    EvidenceInOrder (request.apply hasher db) := by
  refine horder.undisturbed (ledgerInOrder_of_sameLedger horder.ledger hsame)
    ⟨hsame.2.2.1, fun key _ _ ↦ by rw [hsame.2.1], fun runId execution hfind ↦ ?_,
      fun runId run hfind ↦ ?_, [], by rw [hsame.2.2.2, List.append_nil], by simp⟩
  · exact ⟨execution, by rw [hsame.1, hfind], rfl⟩
  · rcases runTables_of_apply hasher db request with htables | ⟨call, -, hchange⟩
    · exact ⟨run, by rw [htables.1, hfind], rfl⟩
    · obtain ⟨later, hlater, hkeeps⟩ := submission_fixed hchange hfind
      exact ⟨later, hlater, hkeeps.tenant⟩

/-- A request that leaves the ledger alone keeps it sound. -/
theorem Sound.elsewhere {hasher : Hasher} {request : Request} (hsound : Sound manager claims db)
    (hsame : SameLedger db (request.apply hasher db)) :
    Sound manager claims (request.apply hasher db) :=
  hsound.sameLedger hsame (evidenceInOrder_of_request hsound.evidence hsame)

end Preservation

/-! ### What follows -/

/-- The actions of a Run whose loop ended have succeeded. -/
theorem Sound.succeeded {manager : RuntimeManager} {claims : List RunLeaseClaim} {db : Database}
    (hsound : Sound manager claims db) {runId stepId : String} {row : ExternalActionRow}
    (hended : LoopEnded db runId)
    (hfind : db.externalActions.find (runId, stepId) = some row) : row.status = .succeeded := by
  obtain ⟨count, decision, hcompleted, hdecided, hnoCall⟩ := hended
  obtain ⟨step, hstep, hagrees⟩ := (hsound.evidence.ledger.rows _ row hfind).parent
  obtain ⟨tool, hstands, rfl, -⟩ := hsound.steps runId stepId step hstep
  -- The step after the last completed one has a decision that calls no tool.
  have hnext : tool.index ≠ count + 1 := by
    intro heq
    have hcall := hstands.decided
    rw [heq] at hcall
    exact hnoCall _ (hdecided.unique hcall)
  have hle : tool.index ≤ count := by
    by_contra hgt
    obtain ⟨middle, hmiddle, -⟩ := hsound.order runId tool.index step hstep (count + 1)
      (by omega) (by omega)
    obtain ⟨other, hother, hotherStep, -⟩ := hsound.steps runId _ middle hmiddle
    have hindex : count + 1 = other.index := callStepId_injective hotherStep
    have hcall := hother.decided
    rw [← hindex] at hcall
    exact hnoCall _ (hdecided.unique hcall)
  obtain ⟨found, hfound, hstatus⟩ := hcompleted tool.index hstands.limit.1 hle
  obtain rfl : found = step := Option.some.inj (hfound.symm.trans hstep)
  cases hrow : row.status with
  | succeeded => rfl
  | prepared | dispatching =>
    have hrunning := hagrees.open_running (by rw [hrow]; rfl)
    rw [hstatus] at hrunning
    cases hrunning
  | failed =>
    have hfailed := (hagrees.unsuccessful.mp (.inl hrow)).1
    rw [hstatus] at hfailed
    cases hfailed
  | outcomeUnknown =>
    have hfailed := (hagrees.unsuccessful.mp (.inr hrow)).1
    rw [hstatus] at hfailed
    cases hfailed

end AgentRuntime.Execution
