import AgentRuntime.Store.LedgerOrigins

/-!
# Where the rows of external actions come from

A SUCCEEDED row was SUCCEEDED before, or the call at hand is the one that recorded the success, with
the result and the reference that the row now shows. The idempotency key of an action is its own: an
action is prepared under a key that no other one has, and no call ever changes it.
-/

set_option autoImplicit false
set_option relaxedAutoImplicit false

namespace AgentRuntime.Store

open Library

section Origins

variable {db after : Database} {reading : Reading} {call : WorkflowCall}
  {key : String × String} {row : ExternalActionRow}

/-- A checked success carries the result, with its keys sorted, and the reference it was given. -/
theorem checkedOutcome_result {outcome checked : ExternalActionOutcome}
    (hchecked : checkedOutcome outcome = .ok checked)
    (hstatus : checked.actionStatus = .succeeded) :
    ∃ result, outcome.resultJson = some result ∧ checked.resultJson = some result.sortKeys ∧
      checked.providerReference = outcome.providerReference := by
  have hasked : outcome.actionStatus = .succeeded := (checkedOutcome_status hchecked).1 ▸ hstatus
  unfold checkedOutcome at hchecked
  split_ifs at hchecked
  split at hchecked
  · next fields hfields =>
    obtain rfl := Except.ok.inj hchecked
    exact ⟨.obj fields, hfields, rfl, rfl⟩
  · cases hchecked

/-- The settlement of a success is that of `finalize_external_action_succeeded`. -/
theorem succeeded_of_settlement {settlement : Settlement}
    (hcall : call.settlement = some settlement)
    (hstatus : settlement.outcome.actionStatus = .succeeded) :
    ∃ dispatch attempt result reference code,
      call = .finalizeExternalActionSucceeded settlement.runId settlement.stepId dispatch attempt
        result reference code ∧ settlement.outcome.resultJson = some result ∧
        settlement.outcome.providerReference = some reference := by
  cases call with
  | finalizeExternalActionSucceeded runId stepId dispatch attempt result reference code =>
    obtain rfl := Option.some.inj hcall
    exact ⟨dispatch, attempt, result, reference, code, rfl, rfl, rfl⟩
  | finalizeExternalActionFailed | finalizeExternalActionOutcomeUnknown
  | finalizeExternalActionReconciliationUnknown | finalizeUnsafeInterruptedAction =>
    rw [← Option.some.inj hcall] at hstatus
    cases hstatus
  | _ => cases hcall

/-- A SUCCEEDED row was there before, or is what the call recorded. -/
theorem succeeded_of_workflow (hchange : WorkflowChange db reading call after)
    (hfind : after.externalActions.find key = some row) (hstatus : row.status = .succeeded) :
    db.externalActions.find key = some row ∨
      ∃ dispatch attempt result reference code,
        call = .finalizeExternalActionSucceeded key.1 key.2 dispatch attempt result reference code ∧
          row.resultJson = some result.sortKeys ∧ row.providerReference = some reference := by
  cases hchange with
  | same hafter | createExecution _ _ _ _ _ _ hafter | startExecution _ _ _ _ _ _ hafter
  | finalizeExecution _ _ _ _ _ _ _ _ _ hafter | reuseStep _ _ _ _ _ _ _ _ _ _ _ _ _ hafter
  | claimFresh _ _ _ _ _ _ _ _ _ _ hafter | claimRetry _ _ _ _ _ _ _ _ _ _ _ hafter
  | finishStep _ _ _ _ _ _ _ _ _ _ _ _ _ hafter | recoverStep _ _ _ _ _ _ _ hafter
  | appendEvent _ _ _ _ _ _ _ hafter =>
    subst hafter
    exact .inl hfind
  | prepareAction runId stepId _ _ _ _ _ action _ _ _ _ hnone _ _ haction hafter =>
    subst hafter
    have hinserted := (Table.find_insert_of_fresh db.externalActions (runId, stepId) key action
      hnone).symm.trans hfind
    by_cases hkey : key = (runId, stepId)
    · rw [if_pos hkey, haction] at hinserted
      rw [← Option.some.inj hinserted] at hstatus
      cases hstatus
    · rw [if_neg hkey] at hinserted
      exact .inl hinserted
  | beginDispatch runId stepId _ _ _ _ _ _ hrow _ _ _ _ _ _ hafter
  | retryDispatch runId stepId _ _ _ _ _ _ hrow _ _ _ _ _ hafter =>
    subst hafter
    rw [recordDispatch_find] at hfind
    by_cases hkey : key = (runId, stepId)
    · subst hkey
      rw [if_pos rfl, hrow] at hfind
      rw [← Option.some.inj hfind] at hstatus
      cases hstatus
    · rw [if_neg hkey] at hfind
      exact .inl hfind
  | settle settlement outcome _ _ hcall hchecked hrow _ _ _ _ hafter =>
    subst hafter
    rw [recordOutcome_find] at hfind
    by_cases hkey : key = (settlement.runId, settlement.stepId)
    · subst hkey
      rw [if_pos rfl, hrow] at hfind
      obtain rfl := Option.some.inj hfind
      have hsucceeded : outcome.actionStatus = .succeeded := hstatus
      have hasked := (checkedOutcome_status hchecked).1 ▸ hsucceeded
      obtain ⟨dispatch, attempt, result, reference, code, hfinalize, hresult, hreference⟩ :=
        succeeded_of_settlement hcall hasked
      obtain ⟨given, hgiven, hstored, hkept⟩ := checkedOutcome_result hchecked hsucceeded
      obtain rfl : given = result := Option.some.inj (hgiven.symm.trans hresult)
      exact .inr ⟨dispatch, attempt, given, reference, code, hfinalize, hstored,
        hkept.trans hreference⟩
    · rw [if_neg hkey] at hfind
      exact .inl hfind

/-! ### Idempotency keys -/

/-- No two actions have one idempotency key. -/
def KeysUnique (db : Database) : Prop :=
  ∀ key other row hold, db.externalActions.find key = some row →
    db.externalActions.find other = some hold → row.idempotencyKey = hold.idempotencyKey →
      key = other

/-- A row that was not prepared by this call kept its key. -/
theorem idempotencyKey_of_workflow (hchange : WorkflowChange db reading call after)
    (hfind : after.externalActions.find key = some row) :
    (∃ old, db.externalActions.find key = some old ∧ old.idempotencyKey = row.idempotencyKey) ∨
      db.externalActions.find key = none ∧ ∀ other hold,
        after.externalActions.find other = some hold →
          hold.idempotencyKey = row.idempotencyKey → other = key := by
  cases hold : db.externalActions.find key with
  | some old =>
    obtain ⟨next, hnext, hsame⟩ := sameAction_of_workflow hchange hold
    obtain rfl : next = row := Option.some.inj (hnext.symm.trans hfind)
    exact .inl ⟨old, rfl, (congrArg ExternalActionIdentity.idempotencyKey hsame.identity).symm⟩
  | none =>
    refine .inr ⟨rfl, fun other twin htwin hkey ↦ ?_⟩
    obtain ⟨attempt, identity, token, hcall⟩ := freshAction_of_workflow hchange hold hfind
    cases hchange with
    | prepareAction runId stepId _ arguments _ _ _ action hprepare _ _ _ hnone hfreshKey _ haction
        hafter =>
      subst hafter
      have hinserted (place : String × String) := Table.find_insert_of_fresh db.externalActions
        (runId, stepId) place action hnone
      have hplace : key = (runId, stepId) := by
        by_contra hne
        have hkept := (hinserted key).symm.trans hfind
        rw [if_neg hne, hold] at hkept
        cases hkept
      have hrow : row = action := by
        have hnew := (hinserted key).symm.trans hfind
        rw [if_pos hplace] at hnew
        exact (Option.some.inj hnew).symm
      by_contra hne
      have hother := (hinserted other).symm.trans htwin
      rw [if_neg (hplace ▸ hne)] at hother
      refine hfreshKey other twin hother ?_
      rw [hkey, hrow, haction]
      rfl
    | same hafter | createExecution _ _ _ _ _ _ hafter | startExecution _ _ _ _ _ _ hafter
    | finalizeExecution _ _ _ _ _ _ _ _ _ hafter | reuseStep _ _ _ _ _ _ _ _ _ _ _ _ _ hafter
    | claimFresh _ _ _ _ _ _ _ _ _ _ hafter | claimRetry _ _ _ _ _ _ _ _ _ _ _ hafter
    | finishStep _ _ _ _ _ _ _ _ _ _ _ _ _ hafter | recoverStep _ _ _ _ _ _ _ hafter
    | appendEvent _ _ _ _ _ _ _ hafter =>
      have hactions : after.externalActions = db.externalActions := hafter ▸ rfl
      rw [hactions, hold] at hfind
      cases hfind
    | beginDispatch _ _ _ _ _ _ _ _ _ _ _ _ _ _ _ hafter
    | retryDispatch _ _ _ _ _ _ _ _ _ _ _ _ _ _ hafter =>
      subst hafter
      rw [recordDispatch_find, hold, Option.map_none, ite_self] at hfind
      cases hfind
    | settle _ _ _ _ _ _ _ _ _ _ _ hafter =>
      subst hafter
      rw [recordOutcome_find, hold, Option.map_none, ite_self] at hfind
      cases hfind

/-- Every call of a store keeps the keys apart. -/
theorem KeysUnique.apply {hasher : Hasher} (hunique : KeysUnique db) (request : Request) :
    KeysUnique (request.apply hasher db) := by
  rcases ledger_of_apply hasher db request with hsame | ⟨call, -, hchange⟩
  · unfold KeysUnique
    rw [hsame.2.2.1]
    exact hunique
  · intro key other row hold hrow hhold hkey
    rcases idempotencyKey_of_workflow hchange hrow with ⟨old, hold', hsame⟩ | ⟨-, honly⟩
    · rcases idempotencyKey_of_workflow hchange hhold with ⟨before, hbefore, hkept⟩ | ⟨-, honly⟩
      · exact hunique key other old before hold' hbefore (hsame.trans (hkey.trans hkept.symm))
      · exact honly key row hrow hkey
    · exact (honly other hold hhold hkey.symm).symm

end Origins

end AgentRuntime.Store
