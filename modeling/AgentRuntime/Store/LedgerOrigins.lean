import AgentRuntime.Store.LedgerIdentity
import AgentRuntime.Store.EvidenceLedger
import AgentRuntime.Store.EventOrigins

/-!
# Where the rows of the workflow ledger come from

`Ages` is what every request keeps: the log is extended, rows stay and keep their identity, and what
is terminal is final. The second part goes the other way. A step that was not there before was
claimed, an action was prepared, an error code of a step was given by the call that failed it or by
the finalizer of its action, an execution that ended was ended by a call, and so was a step whose
end the log reports. Each `…_of_workflow` names the call, so that a rule about who may make which
call turns into a rule about rows.
-/

set_option autoImplicit false
set_option relaxedAutoImplicit false

namespace AgentRuntime.Store

open Library

variable {hasher : Hasher} {db middle after : Database} {reading : Reading} {call : WorkflowCall}

/-! ### What every request keeps -/

/-- The workflow ledger as it may look later. -/
structure Ages (db after : Database) : Prop where
  log : db.workflowEvents <+: after.workflowEvents
  actions : ∀ key row, db.externalActions.find key = some row →
    ∃ next, after.externalActions.find key = some next ∧ SameAction row next ∧
      (row.status.isTerminal = true → next = row)
  steps : ∀ key row, db.toolCalls.find key = some row →
    ∃ next, after.toolCalls.find key = some next ∧ SameStep row next ∧
      (row.status = .completed → next = row)
  executions : ∀ runId row, db.executions.find runId = some row →
    ∃ next, after.executions.find runId = some next ∧
      (row.status.isTerminal = true → next = row)

theorem Ages.refl (db : Database) : Ages db db where
  log := List.prefix_refl _
  actions _ row hfind := ⟨row, hfind, .refl row, fun _ ↦ rfl⟩
  steps _ row hfind := ⟨row, hfind, .refl row, fun _ ↦ rfl⟩
  executions _ row hfind := ⟨row, hfind, fun _ ↦ rfl⟩

theorem ages_of_sameLedger (hsame : SameLedger db after) : Ages db after where
  log := by rw [hsame.2.2.2]
  actions _ row hfind := ⟨row, by rw [hsame.2.2.1, hfind], .refl row, fun _ ↦ rfl⟩
  steps _ row hfind := ⟨row, by rw [hsame.2.1, hfind], .refl row, fun _ ↦ rfl⟩
  executions _ row hfind := ⟨row, by rw [hsame.1, hfind], fun _ ↦ rfl⟩

/-- An execution that ended stays as it is. -/
theorem endedExecution_of_workflow {runId : String} {row : ExecutionRow}
    (hchange : WorkflowChange db reading call after)
    (hfind : db.executions.find runId = some row) :
    ∃ next, after.executions.find runId = some next ∧
      (row.status.isTerminal = true → next = row) := by
  have hupdated {other : String} {old new : ExecutionRow}
      (hold : db.executions.find other = some old) (hopen : old.status.isTerminal = false) :
      ∃ next, (updateExecution db other fun _ ↦ new).executions.find runId = some next ∧
        (row.status.isTerminal = true → next = row) := by
    have hmodified := db.executions.find_modify other runId fun _ ↦ new
    by_cases heq : runId = other
    · subst heq
      obtain rfl : row = old := Option.some.inj (hfind.symm.trans hold)
      rw [if_pos rfl, hfind] at hmodified
      refine ⟨new, hmodified, fun hterminal ↦ ?_⟩
      rw [hopen] at hterminal
      cases hterminal
    · rw [if_neg heq, hfind] at hmodified
      exact ⟨row, hmodified, fun _ ↦ rfl⟩
  cases hchange with
  | same hafter => exact ⟨row, hafter ▸ hfind, fun _ ↦ rfl⟩
  | createExecution other workflowType inputHash _ _ hnone hafter =>
    subst hafter
    have hne : runId ≠ other := by
      rintro rfl
      rw [hnone] at hfind
      cases hfind
    exact ⟨row, (Table.find_insert_of_fresh _ _ _ _ hnone).trans ((if_neg hne).trans hfind),
      fun _ ↦ rfl⟩
  | startExecution other _ old _ hold hpending hafter =>
    subst hafter
    exact hupdated hold (by rw [hpending]; rfl)
  | finalizeExecution other _ _ _ _ old _ hold hrunning hafter =>
    subst hafter
    exact hupdated hold (by rw [hrunning]; rfl)
  | reuseStep _ _ _ _ _ _ _ _ _ _ _ _ _ hafter | claimFresh _ _ _ _ _ _ _ _ _ _ hafter
  | claimRetry _ _ _ _ _ _ _ _ _ _ _ hafter | finishStep _ _ _ _ _ _ _ _ _ _ _ _ _ hafter
  | recoverStep _ _ _ _ _ _ _ hafter | prepareAction _ _ _ _ _ _ _ _ _ _ _ _ _ _ _ _ hafter
  | beginDispatch _ _ _ _ _ _ _ _ _ _ _ _ _ _ _ hafter
  | retryDispatch _ _ _ _ _ _ _ _ _ _ _ _ _ _ hafter
  | settle _ _ _ _ _ _ _ _ _ _ _ hafter | appendEvent _ _ _ _ _ _ _ hafter =>
    subst hafter
    exact ⟨row, hfind, fun _ ↦ rfl⟩

theorem ages_of_perform {reply : call.Reply}
    (hok : call.perform db reading = .ok (reply, after)) : Ages db after := by
  have hchange := workflowChange_of_perform hok
  refine ⟨?_, fun key row hfind ↦ ?_, fun key row hfind ↦ ?_, fun runId row hfind ↦ ?_⟩
  · obtain ⟨events, hlog, -⟩ := grows_of_workflow hchange
    exact ⟨events, hlog.symm⟩
  · obtain ⟨next, hnext, hsame⟩ := sameAction_of_workflow hchange hfind
    refine ⟨next, hnext, hsame, fun hterminal ↦ ?_⟩
    exact Option.some.inj (hnext.symm.trans (terminal_of_workflow hchange hfind hterminal))
  · obtain ⟨next, hnext, hsame⟩ := sameStep_of_perform hok hfind
    refine ⟨next, hnext, hsame, fun hcompleted ↦ ?_⟩
    exact Option.some.inj (hnext.symm.trans (completedStep_of_workflow hchange hfind hcompleted))
  · exact endedExecution_of_workflow hchange hfind

theorem ages_apply (request : Request) : Ages db (request.apply hasher db) := by
  obtain ⟨reading, call⟩ := request
  cases hperform : call.perform hasher db reading with
  | error error =>
    rw [apply_of_error hperform]
    exact .refl db
  | ok result =>
    obtain ⟨reply, after⟩ := result
    rw [apply_of_ok hperform]
    cases call with
    | run call => exact ages_of_sameLedger (onlyRunTables_of_run hperform).1
    | workflow call => exact ages_of_perform hperform
    | memory call => exact ages_of_sameLedger (onlyMemory_of_memory hperform).2

/-! ### Steps and actions -/

/-- A step that was not there before was claimed, or copied from another Run. -/
theorem freshStep_of_workflow {key : String × String} {row : ToolCallRow}
    (hchange : WorkflowChange db reading call after) (hnone : db.toolCalls.find key = none)
    (hfind : after.toolCalls.find key = some row) :
    (∃ toolName inputHash maxAttempts token,
      call = .claimStep key.1 key.2 toolName inputHash maxAttempts token ∧
        row.toolName = toolName) ∨
      ∃ source toolName inputHash token,
        call = .reuseCompletedStep source key.1 key.2 toolName inputHash token := by
  have hupdated {runId stepId : String} {change : ToolCallRow → ToolCallRow}
      (hfind : (db.toolCalls.modify (runId, stepId) change).find key = some row) : False := by
    rw [Table.find_modify, hnone, Option.map_none, ite_self] at hfind
    cases hfind
  have hkept (hfind : db.toolCalls.find key = some row) : False := by
    rw [hnone] at hfind
    cases hfind
  cases hchange with
  | same hafter | createExecution _ _ _ _ _ _ hafter | startExecution _ _ _ _ _ _ hafter
  | finalizeExecution _ _ _ _ _ _ _ _ _ hafter
  | prepareAction _ _ _ _ _ _ _ _ _ _ _ _ _ _ _ _ hafter
  | beginDispatch _ _ _ _ _ _ _ _ _ _ _ _ _ _ _ hafter
  | retryDispatch _ _ _ _ _ _ _ _ _ _ _ _ _ _ hafter | appendEvent _ _ _ _ _ _ _ hafter =>
    subst hafter
    exact (hkept hfind).elim
  | claimRetry _ _ _ _ _ _ _ _ _ _ _ hafter | finishStep _ _ _ _ _ _ _ _ _ _ _ _ _ hafter
  | recoverStep _ _ _ _ _ _ _ hafter | settle _ _ _ _ _ _ _ _ _ _ _ hafter =>
    subst hafter
    exact (hupdated hfind).elim
  | reuseStep source target stepId toolName inputHash token step _ hcall _ _ hfresh _ hafter =>
    subst hafter
    have hinserted := (Table.find_insert_of_fresh db.toolCalls (target, stepId) key step
      hfresh).symm.trans hfind
    by_cases hkey : key = (target, stepId)
    · subst hkey
      exact .inr ⟨source, toolName, inputHash, token, hcall⟩
    · rw [if_neg hkey] at hinserted
      exact (hkept hinserted).elim
  | claimFresh runId stepId toolName inputHash maxAttempts token _ hcall _ hfresh hafter =>
    subst hafter
    have hinserted := (Table.find_insert_of_fresh db.toolCalls (runId, stepId) key
      (freshStep ("call_" ++ reading.uuid 1) ("attempt_" ++ reading.uuid 0) toolName inputHash
        (reading.utcNow 0)) hfresh).symm.trans hfind
    by_cases hkey : key = (runId, stepId)
    · subst hkey
      rw [if_pos rfl] at hinserted
      refine .inl ⟨toolName, inputHash, maxAttempts, token, hcall, ?_⟩
      rw [← Option.some.inj hinserted]
      rfl
    · rw [if_neg hkey] at hinserted
      exact (hkept hinserted).elim

/-- An action that was not there before was prepared. -/
theorem freshAction_of_workflow {key : String × String} {row : ExternalActionRow}
    (hchange : WorkflowChange db reading call after) (hnone : db.externalActions.find key = none)
    (hfind : after.externalActions.find key = some row) :
    ∃ attempt identity token,
      call = .prepareExternalAction key.1 key.2 attempt identity token := by
  have hkept (hfind : db.externalActions.find key = some row) : False := by
    rw [hnone] at hfind
    cases hfind
  cases hchange with
  | same hafter | createExecution _ _ _ _ _ _ hafter | startExecution _ _ _ _ _ _ hafter
  | finalizeExecution _ _ _ _ _ _ _ _ _ hafter | reuseStep _ _ _ _ _ _ _ _ _ _ _ _ _ hafter
  | claimFresh _ _ _ _ _ _ _ _ _ _ hafter | claimRetry _ _ _ _ _ _ _ _ _ _ _ hafter
  | finishStep _ _ _ _ _ _ _ _ _ _ _ _ _ hafter | recoverStep _ _ _ _ _ _ _ hafter
  | appendEvent _ _ _ _ _ _ _ hafter =>
    subst hafter
    exact (hkept hfind).elim
  | prepareAction runId stepId attempt arguments token _ _ action hcall _ _ _ hfresh _ _ _ hafter =>
    subst hafter
    have hinserted := (Table.find_insert_of_fresh db.externalActions (runId, stepId) key action
      hfresh).symm.trans hfind
    by_cases hkey : key = (runId, stepId)
    · subst hkey
      exact ⟨attempt, arguments, token, hcall⟩
    · rw [if_neg hkey] at hinserted
      exact (hkept hinserted).elim
  | beginDispatch _ _ _ _ _ _ _ _ _ _ _ _ _ _ _ hafter
  | retryDispatch _ _ _ _ _ _ _ _ _ _ _ _ _ _ hafter =>
    subst hafter
    rw [recordDispatch_find, hnone, Option.map_none, ite_self] at hfind
    cases hfind
  | settle _ _ _ _ _ _ _ _ _ _ _ hafter =>
    subst hafter
    rw [recordOutcome_find, hnone, Option.map_none, ite_self] at hfind
    cases hfind

/-- An error code of a step was there before, was given by the call that failed or recovered the
step, or is that of its action. -/
theorem stepCode_of_workflow {key : String × String} {row : ToolCallRow} {code : String}
    (hchange : WorkflowChange db reading call after)
    (hfind : after.toolCalls.find key = some row) (hcode : row.errorCode = some code) :
    (∃ old, db.toolCalls.find key = some old ∧ old.errorCode = some code) ∨
      (∃ attempt token, call = .failStep key.1 key.2 attempt code token) ∨
      code = "interrupted" ∨ (db.externalActions.find key).isSome = true := by
  have hupdated {runId stepId : String} {new : ToolCallRow}
      (hfind : (db.toolCalls.modify (runId, stepId) fun _ ↦ new).find key = some row) :
      db.toolCalls.find key = some row ∨ key = (runId, stepId) ∧ row = new := by
    rw [Table.find_modify] at hfind
    by_cases hkey : key = (runId, stepId)
    · rw [if_pos hkey] at hfind
      obtain ⟨old, -, hnew⟩ := Option.map_eq_some_iff.mp hfind
      exact .inr ⟨hkey, hnew.symm⟩
    · rw [if_neg hkey] at hfind
      exact .inl hfind
  have hinserted {runId stepId : String} {new : ToolCallRow}
      (hfresh : db.toolCalls.find (runId, stepId) = none) (hblank : new.errorCode = none)
      (hfind : (db.toolCalls.insert (runId, stepId) new).find key = some row) :
      db.toolCalls.find key = some row := by
    rw [Table.find_insert_of_fresh _ _ _ _ hfresh] at hfind
    by_cases hkey : key = (runId, stepId)
    · rw [if_pos hkey] at hfind
      rw [← Option.some.inj hfind, hblank] at hcode
      cases hcode
    · rwa [if_neg hkey] at hfind
  cases hchange with
  | same hafter | createExecution _ _ _ _ _ _ hafter | startExecution _ _ _ _ _ _ hafter
  | finalizeExecution _ _ _ _ _ _ _ _ _ hafter
  | prepareAction _ _ _ _ _ _ _ _ _ _ _ _ _ _ _ _ hafter
  | beginDispatch _ _ _ _ _ _ _ _ _ _ _ _ _ _ _ hafter
  | retryDispatch _ _ _ _ _ _ _ _ _ _ _ _ _ _ hafter | appendEvent _ _ _ _ _ _ _ hafter =>
    subst hafter
    exact .inl ⟨row, hfind, hcode⟩
  | reuseStep _ _ _ _ _ _ _ _ _ _ _ hfresh hcopied hafter =>
    subst hafter
    exact .inl ⟨row, hinserted hfresh (by rw [hcopied]; rfl) hfind, hcode⟩
  | claimFresh _ _ _ _ _ _ _ _ _ hfresh hafter =>
    subst hafter
    exact .inl ⟨row, hinserted hfresh rfl hfind, hcode⟩
  | claimRetry _ _ _ _ _ _ _ _ _ _ _ hafter =>
    subst hafter
    rcases hupdated hfind with hold | ⟨-, rfl⟩
    · exact .inl ⟨row, hold, hcode⟩
    · cases hcode
  | finishStep runId stepId attempt token _ _ _ _ _ _ hcall _ _ hafter =>
    subst hafter
    rcases hupdated hfind with hold | ⟨rfl, rfl⟩
    · exact .inl ⟨row, hold, hcode⟩
    · rcases hcall with ⟨json, -, -, -, rfl, -⟩ | ⟨error, hcall, -, -, rfl, -⟩
      · cases hcode
      · obtain rfl := Option.some.inj hcode
        exact .inr (.inl ⟨attempt, token, hcall⟩)
  | recoverStep _ _ _ _ _ _ _ hafter =>
    subst hafter
    rcases hupdated hfind with hold | ⟨-, rfl⟩
    · exact .inl ⟨row, hold, hcode⟩
    · exact .inr (.inr (.inl (Option.some.inj hcode).symm))
  | settle settlement _ action _ _ _ haction _ _ _ _ hafter =>
    subst hafter
    rcases hupdated hfind with hold | ⟨rfl, -⟩
    · exact .inl ⟨row, hold, hcode⟩
    · exact .inr (.inr (.inr (by rw [haction]; rfl)))

/-! ### Executions -/

/-- An execution that ended had ended before, or the call ended it. -/
theorem verdict_of_workflow {runId : String} {row : ExecutionRow}
    (hchange : WorkflowChange db reading call after)
    (hfind : after.executions.find runId = some row) (hended : row.status.isTerminal = true) :
    db.executions.find runId = some row ∨ ∃ eventType result,
      call.verdict = some (runId, row.status, eventType, result, row.errorCode) := by
  have hupdated {other : String} {new : ExecutionRow}
      (hfind : (db.executions.modify other fun _ ↦ new).find runId = some row) :
      db.executions.find runId = some row ∨ runId = other ∧ row = new := by
    rw [Table.find_modify] at hfind
    by_cases heq : runId = other
    · rw [if_pos heq] at hfind
      obtain ⟨old, -, hnew⟩ := Option.map_eq_some_iff.mp hfind
      exact .inr ⟨heq, hnew.symm⟩
    · rw [if_neg heq] at hfind
      exact .inl hfind
  cases hchange with
  | same hafter | reuseStep _ _ _ _ _ _ _ _ _ _ _ _ _ hafter
  | claimFresh _ _ _ _ _ _ _ _ _ _ hafter | claimRetry _ _ _ _ _ _ _ _ _ _ _ hafter
  | finishStep _ _ _ _ _ _ _ _ _ _ _ _ _ hafter | recoverStep _ _ _ _ _ _ _ hafter
  | prepareAction _ _ _ _ _ _ _ _ _ _ _ _ _ _ _ _ hafter
  | beginDispatch _ _ _ _ _ _ _ _ _ _ _ _ _ _ _ hafter
  | retryDispatch _ _ _ _ _ _ _ _ _ _ _ _ _ _ hafter
  | settle _ _ _ _ _ _ _ _ _ _ _ hafter | appendEvent _ _ _ _ _ _ _ hafter =>
    subst hafter
    exact .inl hfind
  | createExecution other workflowType inputHash _ _ hnone hafter =>
    subst hafter
    have hinserted := (db.executions.find_insert_of_fresh other runId
      (pendingExecution workflowType inputHash (reading.utcNow 0)) hnone).symm.trans hfind
    by_cases heq : runId = other
    · rw [if_pos heq] at hinserted
      rw [← Option.some.inj hinserted] at hended
      cases hended
    · rw [if_neg heq] at hinserted
      exact .inl hinserted
  | startExecution _ _ _ _ _ _ hafter =>
    subst hafter
    rcases hupdated hfind with hold | ⟨-, rfl⟩
    · exact .inl hold
    · cases hended
  | finalizeExecution other status eventType result code old hcall _ _ hafter =>
    subst hafter
    rcases hupdated hfind with hold | ⟨rfl, rfl⟩
    · exact .inl hold
    · exact .inr ⟨eventType, result, hcall⟩

/-! ### Ends of steps -/

theorem stepEnd_of_append {events : List EventRow} {runId stepId : String}
    (hlog : after.workflowEvents = db.workflowEvents ++ events)
    (hends : stepEndEvents after runId stepId ≠ []) :
    stepEndEvents db runId stepId ≠ [] ∨ ∃ event ∈ events, event.runId = runId ∧
      isStepEndType event.eventType = true ∧ event.payload.getD "step_id" = .str stepId := by
  rw [stepEndEvents_append hlog] at hends
  by_cases hold : stepEndEvents db runId stepId = []
  · rw [hold, List.nil_append] at hends
    obtain ⟨event, hmem⟩ := List.exists_mem_of_ne_nil _ hends
    obtain ⟨hmem, hend⟩ := List.mem_filter.mp hmem
    obtain ⟨hmem, hrun⟩ := List.mem_filter.mp hmem
    rw [Bool.and_eq_true, beq_iff_eq] at hend
    exact .inr ⟨event, hmem, beq_iff_eq.mp hrun, hend⟩
  · exact .inl hold

/-- A step whose end the log reports was reported before, was ended by the call, or has an
action. -/
theorem stepEnd_of_workflow {runId stepId : String}
    (hchange : WorkflowChange db reading call after)
    (hends : stepEndEvents after runId stepId ≠ []) :
    stepEndEvents db runId stepId ≠ [] ∨
      (∃ attempt result token, call = .completeStep runId stepId attempt result token) ∨
      (∃ attempt code token, call = .failStep runId stepId attempt code token) ∨
      (∃ eventType payload token, call = .appendEvent runId eventType payload token ∧
        isStepEndType eventType = true) ∨
      (db.externalActions.find (runId, stepId)).isSome = true := by
  have hnoted {other eventType : String} {payload : Payload} {createdAt : String}
      (hlog : after.workflowEvents = db.workflowEvents ++
        [newEvent db.workflowEvents other eventType payload createdAt]) :
      stepEndEvents db runId stepId ≠ [] ∨ other = runId ∧ isStepEndType eventType = true ∧
        payload.getD "step_id" = .str stepId := by
    rcases stepEnd_of_append hlog hends with hold | ⟨event, hmem, hend⟩
    · exact .inl hold
    · rw [List.mem_singleton.mp hmem] at hend
      exact .inr hend
  have hquiet {other eventType : String} {payload : Payload} {createdAt : String}
      (hlog : after.workflowEvents = db.workflowEvents ++
        [newEvent db.workflowEvents other eventType payload createdAt])
      (htype : isStepEndType eventType = false) : stepEndEvents db runId stepId ≠ [] := by
    rcases hnoted hlog with hold | ⟨-, hend, -⟩
    · exact hold
    · rw [htype] at hend
      cases hend
  cases hchange with
  | same hafter | createExecution _ _ _ _ _ _ hafter =>
    subst hafter
    exact .inl hends
  | startExecution _ _ _ _ _ _ hafter | reuseStep _ _ _ _ _ _ _ _ _ _ _ _ _ hafter
  | claimFresh _ _ _ _ _ _ _ _ _ _ hafter | claimRetry _ _ _ _ _ _ _ _ _ _ _ hafter
  | recoverStep _ _ _ _ _ _ _ hafter | prepareAction _ _ _ _ _ _ _ _ _ _ _ _ _ _ _ _ hafter
  | beginDispatch _ _ _ _ _ _ _ _ _ _ _ _ _ _ _ hafter
  | retryDispatch _ _ _ _ _ _ _ _ _ _ _ _ _ _ hafter =>
    subst hafter
    exact .inl (hquiet rfl rfl)
  | finalizeExecution _ _ eventType _ _ _ hcall _ _ hafter =>
    subst hafter
    refine .inl (hquiet rfl ?_)
    cases call <;> cases hcall <;> rfl
  | finishStep other otherStep attempt token row status result code eventType outcome hcall _ _
      hafter =>
    subst hafter
    rcases hnoted rfl with hold | ⟨rfl, -, hstep⟩
    · exact .inl hold
    · have heq : otherStep = stepId := Json.str.inj hstep
      subst heq
      rcases hcall with ⟨json, hcall, -⟩ | ⟨error, hcall, -⟩
      · exact .inr (.inl ⟨attempt, json, token, hcall⟩)
      · exact .inr (.inr (.inl ⟨attempt, error, token, hcall⟩))
  | settle settlement outcome action step hcall hchecked haction _ _ _ _ hafter =>
    subst hafter
    rcases stepEnd_of_append (recordOutcome_log _ _ _ _ _ _ _) hends with hold | ⟨event, hmem, hrun,
      htype, hstep⟩
    · exact .inl hold
    · rcases List.mem_pair.mp hmem with rfl | rfl
      · have hterminal := (outcomeChecked_of_checkedOutcome hchecked).terminal
        rw [(outcomeEvent_type _ _ _ _ _ _ hterminal).2] at htype
        cases htype
      · have hsame : settlement.runId = runId ∧ settlement.stepId = stepId :=
          ⟨hrun, Json.str.inj hstep⟩
        obtain ⟨rfl, rfl⟩ := hsame
        exact .inr (.inr (.inr (.inr (by rw [haction]; rfl))))
  | appendEvent other eventType payload token execution hcall _ hafter =>
    subst hafter
    rcases hnoted rfl with hold | ⟨rfl, htype, -⟩
    · exact .inl hold
    · exact .inr (.inr (.inr (.inl ⟨eventType, payload, token, hcall, htype⟩)))

end AgentRuntime.Store
