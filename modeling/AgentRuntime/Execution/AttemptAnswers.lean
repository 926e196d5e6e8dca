import AgentRuntime.Execution.AttemptLedger

/-!
# Answers are true

An answer of the workflow store shows the ledger as the call left it, so the new deed of an attempt
attests the ledger (`attests_of_ok`). Two answers say more than their rows. A listing with `n`
completed steps shows that the *first* `n` steps are completed, because steps are claimed in order;
and an accepted `append_event` shows that its evidence is the first, because the attempt looked
before and nobody else could record it since.
-/

set_option autoImplicit false
set_option relaxedAutoImplicit false

namespace AgentRuntime.Execution

open Library Store

/-! ### Deeds that say nothing -/

theorem ShowsAction.answered {runId stepId : String} {row : ExternalActionRow} {deed : Deed}
    (hshows : ShowsAction runId stepId row deed) :
    ∃ (call : WorkflowCall) (reply : call.Reply), deed = .workflow call (.ok reply) := by
  cases hshows <;> exact ⟨_, _, rfl⟩

theorem ShowsStep.answered {runId stepId : String} {row : ToolCallRow} {deed : Deed}
    (hshows : ShowsStep runId stepId row deed) :
    ∃ (call : WorkflowCall) (reply : call.Reply), deed = .workflow call (.ok reply) := by
  cases hshows <;> exact ⟨_, _, rfl⟩

theorem ShowsExecution.answered {runId : String} {row : ExecutionRow} {deed : Deed}
    (hshows : ShowsExecution runId row deed) :
    ∃ (call : WorkflowCall) (reply : call.Reply), deed = .workflow call (.ok reply) := by
  cases hshows <;> exact ⟨_, _, rfl⟩

theorem Settles.answered {runId stepId : String} {status : ExternalActionStatus} {deed : Deed}
    (hsettles : Settles runId stepId status deed) :
    ∃ (call : WorkflowCall) (reply : call.Reply), deed = .workflow call (.ok reply) := by
  cases hsettles <;> exact ⟨_, _, rfl⟩

/-- A deed without an answer of the workflow store says nothing about the ledger. -/
theorem attests_of_silent {runId : String} {deed : Deed} {db : Database}
    (hsilent : ∀ (call : WorkflowCall) (reply : call.Reply), deed ≠ .workflow call (.ok reply)) :
    Attests runId deed db := by
  have hno (hanswered : ∃ (call : WorkflowCall) (reply : call.Reply),
      deed = .workflow call (.ok reply)) : False := by
    obtain ⟨call, reply, hdeed⟩ := hanswered
    exact hsilent call reply hdeed
  have hself {other : Deed} (hmem : other ∈ [deed]) : other = deed := List.mem_singleton.mp hmem
  refine
    { look := fun events hdeed ↦ (hsilent _ _ hdeed).elim
      append := fun eventType evidenceId fields token event hdeed ↦ (hsilent _ _ hdeed).elim
      action := fun stepId row hshows ↦ (hno hshows.answered).elim
      settled := fun stepId status hsettles ↦ (hno hsettles.answered).elim
      step := fun stepId row hshows ↦ (hno hshows.answered).elim
      coded := fun stepId row code hshows _ _ ↦ (hno hshows.answered).elim
      done := fun stepId hdone ↦ ?_
      listed := fun rows hdeed ↦ (hsilent _ _ hdeed).elim
      execution := fun row hshows ↦ (hno hshows.answered).elim
      concluded := fun hconcluded ↦ ?_ }
  · cases hdone with
    | seen other row hmem hshows => exact (hno (hself hmem ▸ hshows.answered)).elim
    | cached _ _ _ _ _ _ hmem => exact (hsilent _ _ (hself hmem).symm).elim
    | completed _ _ _ _ hmem => exact (hsilent _ _ (hself hmem).symm).elim
    | settled other hmem hsettles => exact (hno (hself hmem ▸ hsettles.answered)).elim
  · cases hconcluded with
    | seen other row hmem hshows => exact (hno (hself hmem ▸ hshows.answered)).elim
    | ready _ _ _ hmem => exact (hsilent _ _ (hself hmem).symm).elim
    | blocked _ _ _ _ hmem => exact (hsilent _ _ (hself hmem).symm).elim

/-! ### Rows -/

section Answers

variable {manager : RuntimeManager} {claim : RunLeaseClaim} {claims : List RunLeaseClaim}
  {history : History} {db after : Database} {reading : Reading} {runId stepId : String}
  {call : WorkflowCall} {reply : call.Reply}

theorem action_of_answer {row : ExternalActionRow} {deed : Deed}
    (hshows : ShowsAction runId stepId row deed) (hdeed : deed = .workflow call (.ok reply))
    (hok : call.perform db reading = .ok (reply, after)) :
    after.externalActions.find (runId, stepId) = some row := by
  cases hshows with
  | got =>
    cases hdeed
    obtain ⟨hreply, rfl⟩ := Prod.mk.inj (Except.ok.inj hok)
    exact hreply
  | listed rows hmem =>
    cases hdeed
    obtain ⟨hreply, rfl⟩ := Prod.mk.inj (Except.ok.inj hok)
    rw [← hreply] at hmem
    exact (mem_listExternalActions _ runId stepId row).mp hmem
  | prepared attempt identity token reply hrow =>
    cases hdeed
    exact stored_of_prepareExternalAction hok hrow
  | begun attempt token reply hrow =>
    cases hdeed
    rw [← hrow]
    exact stored_of_beginExternalActionDispatch hok
  | retried previous attempt token reply hrow =>
    cases hdeed
    rw [← hrow]
    exact stored_of_retryExternalActionDispatch hok

theorem step_of_answer {row : ToolCallRow} {deed : Deed}
    (hshows : ShowsStep runId stepId row deed) (hdeed : deed = .workflow call (.ok reply))
    (hok : call.perform db reading = .ok (reply, after)) :
    after.toolCalls.find (runId, stepId) = some row := by
  cases hshows with
  | got =>
    cases hdeed
    obtain ⟨hreply, rfl⟩ := Prod.mk.inj (Except.ok.inj hok)
    exact hreply
  | listed rows hmem =>
    cases hdeed
    obtain ⟨hreply, rfl⟩ := Prod.mk.inj (Except.ok.inj hok)
    rw [← hreply] at hmem
    exact (mem_listSteps _ runId stepId row).mp hmem
  | claimed toolName inputHash maxAttempts token reply hrow =>
    cases hdeed
    rw [← hrow]
    exact (stored_of_claimStep hok).1

theorem execution_of_answer {row : ExecutionRow} {deed : Deed}
    (hshows : ShowsExecution runId row deed) (hdeed : deed = .workflow call (.ok reply))
    (hok : call.perform db reading = .ok (reply, after)) :
    after.executions.find runId = some row := by
  cases hshows with
  | got =>
    cases hdeed
    obtain ⟨hreply, rfl⟩ := Prod.mk.inj (Except.ok.inj hok)
    exact hreply
  | claimed workflowType inputHash token reply hrow =>
    cases hdeed
    rw [← hrow]
    exact stored_of_createOrGetExecution hok

/-- The outcome that an accepted finalizing call recorded is stored. -/
theorem outcome_of_answer {status : ExternalActionStatus} {deed : Deed}
    (hsettles : Settles runId stepId status deed) (hdeed : deed = .workflow call (.ok reply))
    (hok : call.perform db reading = .ok (reply, after)) :
    ActionIn after runId stepId status ∧
      (status = .succeeded → StepCompleted after runId stepId) := by
  have hstored {settlement : Settlement} (hsettlement : call.settlement = some settlement) :
      OutcomeStored after (settlement.runId, settlement.stepId) settlement.outcome :=
    stored_of_settlement hsettlement hok
  cases hsettles with
  | succeeded =>
    cases hdeed
    obtain ⟨action, step, haction, hstatus, hstep, hcompleted⟩ := hstored rfl
    exact ⟨⟨action, haction, hstatus⟩, fun _ ↦ ⟨step, hstep, hcompleted⟩⟩
  | failed | outcomeUnknown | reconciliationUnknown | unsafeInterrupted =>
    cases hdeed
    obtain ⟨action, step, haction, hstatus, -⟩ := hstored rfl
    exact ⟨⟨action, haction, hstatus⟩, fun heq ↦ by cases heq⟩

theorem done_of_answer {deed : Deed} (hdone : StepDone runId stepId [deed])
    (hdeed : deed = .workflow call (.ok reply))
    (hok : call.perform db reading = .ok (reply, after)) : StepCompleted after runId stepId := by
  cases hdone with
  | seen other row hmem hshows hcompleted =>
    obtain rfl := List.mem_singleton.mp hmem
    exact ⟨row, step_of_answer hshows hdeed hok, hcompleted⟩
  | cached toolName inputHash maxAttempts token other houtcome hmem =>
    obtain rfl := List.mem_singleton.mp hmem
    cases hdeed
    obtain ⟨hfind, hcached⟩ := stored_of_claimStep hok
    exact ⟨_, hfind, hcached houtcome⟩
  | completed attempt result token row hmem =>
    obtain rfl := List.mem_singleton.mp hmem
    cases hdeed
    exact stored_of_completeStep hok
  | settled other hmem hsettles =>
    obtain rfl := List.mem_singleton.mp hmem
    exact (outcome_of_answer hsettles hdeed hok).2 rfl

/-! ### Listings -/

/-- The completed steps of a Run are its first steps. -/
theorem Sound.completed_of_listed (hsound : Sound manager claims db) {index : Nat}
    (hpos : 1 ≤ index) (hle : index ≤ completedCount (listSteps db runId)) :
    StepCompleted db runId (callStepId index) := by
  by_contra hopen
  -- Every completed step comes before the open one, so there are fewer than `index` of them.
  have hearlier : ∀ entry ∈ listSteps db runId, entry.2.status = .completed →
      entry.1 ∈ (List.range' 1 (index - 1)).map callStepId := by
    rintro ⟨step, row⟩ hmem hcompleted
    have hfind := (mem_listSteps db runId step row).mp hmem
    obtain ⟨tool, hstands, rfl, -⟩ := hsound.steps runId step row hfind
    have hlimit := hstands.limit.1
    refine List.mem_map.mpr ⟨tool.index, List.mem_range'_1.mpr ⟨hlimit, ?_⟩, rfl⟩
    by_contra hlate
    rcases Nat.lt_or_eq_of_le (show index ≤ tool.index by omega) with hlt | heq
    · exact hopen (hsound.order runId tool.index row hfind index hpos hlt)
    · exact hopen ⟨row, heq ▸ hfind, hcompleted⟩
  have hnodup : (((listSteps db runId).filter fun entry ↦ entry.2.status == .completed).map
      Prod.fst).Nodup :=
    (nodup_listSteps db runId).sublist (List.filter_sublist.map _)
  have hsubset : ((listSteps db runId).filter fun entry ↦ entry.2.status == .completed).map
      Prod.fst ⊆ (List.range' 1 (index - 1)).map callStepId := by
    intro step hmem
    obtain ⟨entry, hentry, rfl⟩ := List.mem_map.mp hmem
    rw [List.mem_filter, beq_iff_eq] at hentry
    exact hearlier entry hentry.1 hentry.2
  have hcount := (List.subperm_of_subset hnodup hsubset).length_le
  rw [List.length_map, List.length_map, List.length_range', ← List.countP_eq_length_filter]
    at hcount
  unfold completedCount at hle
  omega

/-! ### Evidence -/

/-- The log of a Run after an event was appended. -/
theorem workflowLog_append (db : Database) (runId eventType : String) (payload : Payload)
    (createdAt : String) :
    workflowLog (appendWorkflowEvent db runId eventType payload createdAt) runId =
      workflowLog db runId ++
        [newEvent db.workflowEvents runId eventType payload createdAt] := by
  unfold workflowLog Store.listEvents appendWorkflowEvent
  rw [List.filter_append, List.filter_cons_of_pos, List.filter_nil]
  rw [Bool.and_eq_true, beq_iff_eq, decide_eq_true_eq]
  exact ⟨rfl, one_le_nextSequence _ _⟩

/-- Evidence that was not there before is the first after it was appended. -/
theorem recorded_of_append {eventType evidenceId : String} {fields : Payload} {createdAt : String}
    (hnone : firstEvidence (workflowLog db runId) eventType evidenceId = none) :
    Recorded (appendWorkflowEvent db runId eventType
      (("evidence_id", .str evidenceId) :: fields) createdAt) runId eventType evidenceId
      (("evidence_id", .str evidenceId) :: fields) := by
  unfold Recorded
  rw [workflowLog_append, firstEvidence_append, hnone, Option.none_or]
  simp [firstEvidence, newEvent, isEvidence, Payload.getD, Payload.get?, Json.lookup, Json.pyEq]

/-- An attempt that holds its lease appends evidence that nobody recorded. -/
theorem unrecorded_of_mayAppend {eventType evidenceId : String} {fields : Payload}
    (hmay : MayAppend manager claim history eventType (("evidence_id", .str evidenceId) :: fields))
    (hcurrent : Current claim history db)
    (hheld : HoldsLease db claim.run.runId claim.leaseToken) :
    firstEvidence (workflowLog db claim.run.runId) eventType evidenceId = none := by
  obtain ⟨other, rest, before, events, hpayload, hhistory, hfirst⟩ := hmay.looked
  obtain ⟨hid, -⟩ := List.cons.inj hpayload
  have hid : evidenceId = other := Json.str.inj (Prod.mk.inj hid).2
  subst hid
  rw [hcurrent.looked hheld before events [] hhistory (by simp) eventType hmay.mirrored, hfirst]

/-! ### The new deed -/

/-- What the workflow store answers to a call that the attempt may make is true. -/
theorem attests_of_ok (hok : call.perform db reading = .ok (reply, after))
    (hsound : Sound manager claims after) (hpermitted : Permitted manager claims db call)
    (hmay : MayCall manager claim history call) (hcurrent : Current claim history db) :
    Attests claim.run.runId (.workflow call (.ok reply)) after := by
  have hages := ages_of_perform hok
  refine
    { look := fun events hdeed ↦ ?_
      append := fun eventType evidenceId fields token event hdeed ↦ ?_
      action := fun stepId row hshows ↦ ?_
      settled := fun stepId status hsettles ↦ (outcome_of_answer hsettles rfl hok).1
      step := fun stepId row hshows ↦ ⟨row, step_of_answer hshows rfl hok, .refl row⟩
      coded := fun stepId row code hshows hcode hreported ↦ ?_
      done := fun stepId hdone ↦ done_of_answer hdone rfl hok
      listed := fun rows hdeed index hpos hle ↦ ?_
      execution := fun row hshows ↦ ⟨row, execution_of_answer hshows rfl hok, fun _ ↦ rfl⟩
      concluded := fun hconcluded ↦ ?_ }
  · cases hdeed
    obtain ⟨rfl, rfl⟩ := Prod.mk.inj (Except.ok.inj hok)
    exact List.prefix_refl _
  · cases hdeed
    obtain ⟨-, rfl, happend⟩ := hmay
    have hheld := holdsLease_of_passed (passedFence_of_perform hok) rfl
    have hnone := unrecorded_of_mayAppend happend hcurrent hheld
    rw [after_of_appendEvent hok]
    exact recorded_of_append hnone
  · exact ⟨row, action_of_answer hshows rfl hok, .refl row, fun _ ↦ rfl⟩
  · exact hsound.codes _ row code (step_of_answer hshows rfl hok) hcode hreported
  · cases hdeed
    obtain ⟨rfl, rfl⟩ := Prod.mk.inj (Except.ok.inj hok)
    exact hsound.completed_of_listed hpos hle
  · cases hconcluded with
    | seen other row hmem hshows hstatus =>
      obtain rfl := List.mem_singleton.mp hmem
      exact hsound.concluded _ ⟨row, execution_of_answer hshows rfl hok, hstatus⟩
    | ready _ _ _ hmem =>
      cases List.mem_singleton.mp hmem
      exact hpermitted.mono hages
    | blocked _ _ _ _ hmem =>
      cases List.mem_singleton.mp hmem
      exact hpermitted.mono hages

end Answers

end AgentRuntime.Execution
