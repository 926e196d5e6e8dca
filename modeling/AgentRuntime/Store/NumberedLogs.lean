import AgentRuntime.Library.CursorPaging
import AgentRuntime.Store.EventLog
import AgentRuntime.Store.EventOrigins

/-!
# The two event logs are numbered

Under whatever requests, the events of a Run are numbered from 1 in the order in which they are
appended, in the Run log and in the workflow log, and nothing is taken out of either. A Run that a
tenant can see stays visible to it.
-/

set_option autoImplicit false
set_option relaxedAutoImplicit false

namespace AgentRuntime.Store

open Library

theorem numbered_of_sequenced {events : List EventRow} {runId : String}
    (hsequenced : Sequenced events runId) : Numbered EventRow.sequence (eventsOf events runId) := by
  refine List.pairwise_map.mp ?_
  rw [show (eventsOf events runId).map EventRow.sequence = _ from hsequenced]
  exact List.pairwise_lt_range'

/-! ### The numbers of the workflow log -/

/-- Every transition of the workflow store numbers what it appends. -/
theorem sequenced_of_workflow {db after : Database} {reading : Reading} {call : WorkflowCall}
    {runId : String} (hchange : WorkflowChange db reading call after)
    (hsequenced : Sequenced db.workflowEvents runId) : Sequenced after.workflowEvents runId := by
  cases hchange with
  | same hafter => exact hafter ▸ hsequenced
  | createExecution _ _ _ _ _ _ hafter =>
    subst hafter
    exact hsequenced
  | settle _ _ _ _ _ _ _ _ _ _ _ hafter =>
    subst hafter
    exact sequenced_append (sequenced_append hsequenced _ _ _ _) _ _ _ _
  | startExecution _ _ _ _ _ _ hafter | finalizeExecution _ _ _ _ _ _ _ _ _ hafter
  | reuseStep _ _ _ _ _ _ _ _ _ _ _ _ _ hafter | claimFresh _ _ _ _ _ _ _ _ _ _ hafter
  | claimRetry _ _ _ _ _ _ _ _ _ _ _ hafter | finishStep _ _ _ _ _ _ _ _ _ _ _ _ _ hafter
  | recoverStep _ _ _ _ _ _ _ hafter | prepareAction _ _ _ _ _ _ _ _ _ _ _ _ _ _ _ _ hafter
  | beginDispatch _ _ _ _ _ _ _ _ _ _ _ _ _ _ _ hafter
  | retryDispatch _ _ _ _ _ _ _ _ _ _ _ _ _ _ hafter | appendEvent _ _ _ _ _ _ _ hafter =>
    subst hafter
    exact sequenced_append hsequenced _ _ _ _

theorem sequenced_run (hasher : Hasher) (history : List Request) (runId : String) :
    Sequenced ((storeMachine hasher).run Database.empty history).workflowEvents runId := by
  refine (storeMachine hasher).invariant_run (fun db ↦ Sequenced db.workflowEvents runId) ?_ rfl
    ((storeMachine hasher).admits_true _ _)
  intro db request hsequenced _
  rcases ledger_of_apply hasher db request with hsame | ⟨call, -, hchange⟩
  · exact hsame.2.2.2 ▸ hsequenced
  · exact sequenced_of_workflow hchange hsequenced

/-- The log only grows. -/
theorem workflowEvents_run (hasher : Hasher) (db : Database) (history : List Request) :
    db.workflowEvents <+: ((storeMachine hasher).run db history).workflowEvents := by
  refine (storeMachine hasher).invariant_run
    (fun later ↦ db.workflowEvents <+: later.workflowEvents) ?_ List.prefix_rfl
    ((storeMachine hasher).admits_true _ _)
  intro later request hpart _
  rcases ledger_of_apply hasher later request with hsame | ⟨call, -, hchange⟩
  · exact hsame.2.2.2 ▸ hpart
  · obtain ⟨events, hgrown, -⟩ := grows_of_workflow hchange
    exact hpart.trans ⟨events, hgrown.symm⟩

/-! ### The log of a Run -/

section RunLog

variable {hasher : Hasher} {db after : Database} {reading : Reading} {call : RunCall}
  {runId tenantId : String}

/-- A change of the Run tables appends notes to the log of one Run. -/
theorem notes_of_change (hchange : RunChange db reading call after) :
    ∃ runId notes, after.runEvents = appendNotes db.runEvents runId notes := by
  cases hchange with
  | same htables => exact ⟨"", [], htables.2.1⟩
  | created run notes _ _ _ _ _ hevents => exact ⟨run.runId, notes, hevents⟩
  | rewritten runId _ _ notes _ _ _ hevents => exact ⟨runId, notes, hevents⟩
  | completed run _ _ _ _ hcompletion => exact ⟨run.runId, _, hcompletion.events⟩

/-- A request appends notes to the log of one Run, if it writes there at all. -/
theorem notes_of_apply (hasher : Hasher) (db : Database) (request : Request) :
    ∃ runId notes, (request.apply hasher db).runEvents = appendNotes db.runEvents runId notes := by
  rcases runTables_of_apply hasher db request with hsame | ⟨call, -, hchange⟩
  · exact ⟨"", [], hsame.2.1⟩
  · exact notes_of_change hchange

theorem sequenced_of_apply (request : Request) (hsequenced : Sequenced db.runEvents runId) :
    Sequenced (request.apply hasher db).runEvents runId := by
  obtain ⟨other, notes, hevents⟩ := notes_of_apply hasher db request
  rw [hevents]
  exact sequenced_appendNotes hsequenced other notes

theorem runEvents_of_apply (hasher : Hasher) (db : Database) (request : Request) :
    db.runEvents <+: (request.apply hasher db).runEvents := by
  obtain ⟨other, notes, hevents⟩ := notes_of_apply hasher db request
  obtain ⟨more, hmore⟩ := prefix_appendNotes db.runEvents other notes
  exact ⟨more, by rw [hevents, hmore]⟩

theorem runSequenced_run (hasher : Hasher) (history : List Request) (runId : String) :
    Sequenced ((storeMachine hasher).run Database.empty history).runEvents runId :=
  (storeMachine hasher).invariant_run (fun db ↦ Sequenced db.runEvents runId)
    (fun _ request hsequenced _ ↦ sequenced_of_apply request hsequenced) rfl
    ((storeMachine hasher).admits_true _ _)

/-- A Run that a tenant can see stays visible. -/
theorem visible_of_change (hchange : RunChange db reading call after)
    (hvisible : (findRunForTenant db runId tenantId).isSome = true) :
    (findRunForTenant after runId tenantId).isSome = true := by
  obtain ⟨row, hrow⟩ := Option.isSome_iff_exists.mp hvisible
  obtain ⟨hfind, htenant⟩ := (findRunForTenant_eq_some_iff db runId tenantId row).mp hrow
  obtain ⟨later, hlater, hkept⟩ := submission_fixed hchange hfind
  exact Option.isSome_iff_exists.mpr ⟨later, (findRunForTenant_eq_some_iff after runId tenantId
    later).mpr ⟨hlater, hkept.tenant.trans htenant⟩⟩

theorem visible_of_apply (request : Request)
    (hvisible : (findRunForTenant db runId tenantId).isSome = true) :
    (findRunForTenant (request.apply hasher db) runId tenantId).isSome = true := by
  rcases runTables_of_apply hasher db request with hsame | ⟨call, -, hchange⟩
  · unfold findRunForTenant at hvisible ⊢
    rw [hsame.1]
    exact hvisible
  · exact visible_of_change hchange hvisible

end RunLog

end AgentRuntime.Store
