import AgentRuntime.Store.CancelArbitration
import AgentRuntime.Execution.StoreRequests
import AgentRuntime.Execution.BoundedDispatch

/-!
# The outcome of a cancellation race

`CancelArbitration` decides the race on the tables. A provider is only entered for a dispatch that
its action's row counts, so an action that a cancellation left undispatched never reaches a provider
(`unentered_of_undispatched`), whatever the workers were doing when the flag was set.
-/

set_option autoImplicit false
set_option relaxedAutoImplicit false

namespace AgentRuntime.Execution

open Library Store

variable {hasher : Hasher} {manager : RuntimeManager} {deployment : Deployment}

/-- A provider is not entered for an action that was never dispatched. -/
theorem unentered_of_undispatched {world : World} (haccounted : Accounted deployment world)
    {runId stepId : String} (hundispatched : Undispatched runId stepId world.db) :
    ∀ call ∈ world.calls, call.action ≠ (runId, stepId) := by
  intro call hmem hkey
  obtain ⟨row, hcounted⟩ := haccounted.counted _ (haccounted.spent call hmem)
  have hfind : world.db.externalActions.find (runId, stepId) = some row := hkey ▸ hcounted.find
  have hcount := (hundispatched row hfind).count
  have hpos := hcounted.pos
  have hle := hcounted.le
  omega

/-- The event that a tenant's cancel request is. -/
def cancelLabel (reading : Reading) (runId tenantId : String) : Label :=
  .control reading (.run (.requestCancelAtomically runId tenantId))

/-- Actions without a dispatch at a cancellation stay without one in every continuation. -/
theorem undispatched_of_cancelLabel {labels later : List Label} {reading : Reading}
    {runId stepId : String} {row : RunRow}
    (hfind : ((systemMachine hasher manager).run System.init labels).world.db.runs.find runId =
      some row)
    (hactive : row.status = .queued ∨ row.status = .running)
    (hopen : ∀ action,
      ((systemMachine hasher manager).run System.init labels).world.db.externalActions.find
        (runId, stepId) = some action → action.status = .prepared) :
    Undispatched runId stepId ((systemMachine hasher manager).run System.init
      (labels ++ cancelLabel reading runId row.tenantId :: later)).world.db := by
  obtain ⟨history, hhistory⟩ := storeHistory_of_run hasher manager System.init labels
  rw [Machine.run_append, Machine.run_cons]
  obtain ⟨rest, hrest⟩ := storeHistory_of_run hasher manager
    ((systemMachine hasher manager).next ((systemMachine hasher manager).run System.init labels)
      (cancelLabel reading runId row.tenantId)) later
  rw [hrest]
  have hprepared : PreparedUndispatched
      ((systemMachine hasher manager).run System.init labels).world.db := by
    rw [hhistory]
    exact preparedUndispatched_run history
  let request : Request := ⟨reading, .run (.requestCancelAtomically runId row.tenantId)⟩
  have hcall : request.call = .run (.requestCancelAtomically runId row.tenantId) := rfl
  exact (cancellationHolds_of_request hprepared hcall hfind hactive rest).withheld stepId hopen

/-- Cancellation and completion, and cancellation and dispatch, exclude each other in the order they
commit. After every history, a cancel request on an active Run means that the Run never completes
and moves no checkpoint, and that its actions without a dispatch never get one; a cancel request
after a completion or a dispatch changes neither; no Run is both COMPLETED and asked to cancel; and
the log of a Run holds one `run.cancel_requested` event exactly when its flag is set. In every run
of the workers, the provider is not entered for the actions that the cancellation withheld. -/
theorem cancellation_is_arbitrated (hdeploys : manager.Deploys deployment)
    (history : List Request) :
    let db := (storeMachine hasher).run Database.empty history
    (∀ (request : Request) runId row,
      request.call = .run (.requestCancelAtomically runId row.tenantId) →
      db.runs.find runId = some row → row.status = .queued ∨ row.status = .running →
      ∀ later, CancellationHolds hasher runId db (request.apply hasher db) later) ∧
    (∀ (request : Request) runId tenantId,
      request.call = .run (.requestCancelAtomically runId tenantId) →
      KeepsDecided db (request.apply hasher db)) ∧
    (∀ runId row, db.runs.find runId = some row → row.status = .completed →
      row.cancelRequested = false ∧
        ∀ later, ((storeMachine hasher).run db later).runs.find runId = some row) ∧
    ((∀ request ∈ history, request.unforged = true) → ∀ runId row,
      db.runs.find runId = some row →
        cancelEvents (typesOf db.runEvents runId) = if row.cancelRequested then 1 else 0) ∧
    ∀ labels reading runId row later,
      (systemMachine hasher manager).Admits FreshTokens System.init
        (labels ++ cancelLabel reading runId row.tenantId :: later) →
      ((systemMachine hasher manager).run System.init labels).world.db.runs.find runId =
        some row → row.status = .queued ∨ row.status = .running →
      ∀ stepId, (∀ action,
        ((systemMachine hasher manager).run System.init labels).world.db.externalActions.find
          (runId, stepId) = some action → action.status = .prepared) →
      let final := (systemMachine hasher manager).run System.init
        (labels ++ cancelLabel reading runId row.tenantId :: later)
      Undispatched runId stepId final.world.db ∧
        ∀ call ∈ final.world.calls, call.action ≠ (runId, stepId) := by
  intro db
  refine ⟨fun request runId row hcall hfind hactive later ↦ ?_,
    fun request runId tenantId hcall ↦ ?_, fun runId row hfind hcompleted ↦ ⟨?_, ?_⟩,
    fun hunforged runId row hfind ↦ ?_,
    fun labels reading runId row later hfresh hfind hactive stepId hopen ↦ ?_⟩
  · exact cancellationHolds_of_request (preparedUndispatched_run history) hcall hfind hactive later
  · exact keepsDecided_of_request hcall
  · exact completedUnflagged_run history runId row hfind hcompleted
  · have hterminal : row.status.isTerminal = true := by rw [hcompleted]; rfl
    exact fun later ↦ terminal_row_run hfind hterminal later
  · rw [(cancelLogged_run hunforged).logged runId row hfind]
    cases row.cancelRequested <;> rfl
  · intro final
    have hundispatched : Undispatched runId stepId final.world.db :=
      undispatched_of_cancelLabel hfind hactive hopen
    exact ⟨hundispatched,
      unentered_of_undispatched (systemAccounted_run hdeploys hfresh).1 hundispatched⟩

/-- The first attempt up to the action's preparation. -/
def samplePrepared : List Label := sampleDispatch.dropLast

/-- The worker goes on until its attempt is over. -/
def sampleRest : List Label :=
  (List.replicate 20 [storeStep 0 "d", .work 0 .noted, .work 0 (.flag false)]).flatten

set_option maxRecDepth 10000 in
/-- The sample Run is asked to cancel while its action is PREPARED: the worker that goes on cancels
it and never enters the provider. -/
theorem prepared_action_is_withheld :
    ∃ row, ((systemMachine sampleHasher sampleManager).run System.init
        samplePrepared).world.db.runs.find "run_1" = some row ∧ row.tenantId = "acme" ∧
      Undispatched "run_1" "call-0001" ((systemMachine sampleHasher sampleManager).run System.init
        (samplePrepared ++ cancelLabel (sampleReading 11 "c") "run_1" "acme" ::
          sampleRest)).world.db ∧
      ∀ call ∈ ((systemMachine sampleHasher sampleManager).run System.init
        (samplePrepared ++ cancelLabel (sampleReading 11 "c") "run_1" "acme" ::
          sampleRest)).world.calls, call.action ≠ ("run_1", "call-0001") := by
  have hfresh : (systemMachine sampleHasher sampleManager).Admits FreshTokens System.init
      (samplePrepared ++ cancelLabel (sampleReading 11 "c") "run_1" "acme" :: sampleRest) := by
    decide +kernel
  have hfound : (((systemMachine sampleHasher sampleManager).run System.init
      samplePrepared).world.db.runs.find "run_1").any
        (fun row ↦ row.status == .running && row.tenantId == "acme") = true := by
    decide +kernel
  have hopen : (((systemMachine sampleHasher sampleManager).run System.init
      samplePrepared).world.db.externalActions.find ("run_1", "call-0001")).all
        (fun action ↦ action.status == .prepared) = true := by
    decide +kernel
  obtain ⟨-, -, -, -, hsystem⟩ := @cancellation_is_arbitrated sampleHasher sampleManager
    sampleDeployment sampleManager_deploys []
  cases hfind : ((systemMachine sampleHasher sampleManager).run System.init
      samplePrepared).world.db.runs.find "run_1" with
  | none =>
    rw [hfind] at hfound
    cases hfound
  | some row =>
    rw [hfind, Option.any_some, Bool.and_eq_true, beq_iff_eq, beq_iff_eq] at hfound
    obtain ⟨hrunning, htenant⟩ := hfound
    rw [← htenant] at hfresh
    obtain ⟨hundispatched, hunentered⟩ := hsystem samplePrepared (sampleReading 11 "c") "run_1" row
      sampleRest hfresh hfind (.inr hrunning) "call-0001" fun action haction ↦ by
        rw [haction] at hopen
        simpa using hopen
    rw [htenant] at hundispatched hunentered
    exact ⟨row, rfl, htenant, hundispatched, hunentered⟩

end AgentRuntime.Execution
