import AgentRuntime.Store.ActionEvidence
import AgentRuntime.Store.EventLog

/-!
# Who writes an event

Both logs only grow. What a request adds to the workflow log is an event of an external action, an
event of the ledger's own transitions, or the event that its caller asked for; what it adds to a
Run's log is an event of the Run's own transitions or an attempt event of its caller. Which call
wrote an event is what `logs_of_apply` says.
-/

set_option autoImplicit false
set_option relaxedAutoImplicit false

namespace AgentRuntime.Store

open Library

/-- The token is the current lease of the Run. -/
def HoldsLease (db : Database) (runId token : String) : Prop :=
  ∃ row, db.runs.find runId = some row ∧ row.leaseToken = some token

/-- One token at a time. -/
theorem HoldsLease.unique {db : Database} {runId token other : String}
    (hholds : HoldsLease db runId token) (hother : HoldsLease db runId other) : token = other := by
  obtain ⟨row, hfind, htoken⟩ := hholds
  obtain ⟨twin, htwin, hheld⟩ := hother
  obtain rfl : row = twin := Option.some.inj (hfind.symm.trans htwin)
  exact Option.some.inj (htoken.symm.trans hheld)

/-- The events of the workflow log that its transitions write, besides those of the actions. -/
def ledgerEventTypes : List String :=
  ["workflow.started", "workflow.ready", "workflow.blocked", "workflow.failed", "step.claimed",
    "step.completed", "step.failed", "step.interrupted_recovery", "step.replay_reused"]

/-- The events that the transitions of a Run write. -/
def runEventTypes : List String :=
  lifecycleEventTypes ++ controlPlaneEventTypes ++
    ["checkpoint.conflict", "checkpoint.saved", "quarantine.resolution_applied"]

/-! ### The workflow log -/

/-- Where a new event of the workflow log comes from. -/
inductive WorkflowOrigin (call : WorkflowCall) (event : EventRow) : Prop
  | action (htype : isActionType event.eventType = true)
  | ledger (htype : event.eventType ∈ ledgerEventTypes)
  | caller (token : Option String)
    (hcall : call = .appendEvent event.runId event.eventType event.payload token)

/-- The log grew by events that satisfy a condition. -/
def Grows (before after : List EventRow) (origin : EventRow → Prop) : Prop :=
  ∃ events, after = before ++ events ∧ ∀ event ∈ events, 1 ≤ event.sequence ∧ origin event

theorem Grows.refl (log : List EventRow) (origin : EventRow → Prop) : Grows log log origin :=
  ⟨[], (List.append_nil _).symm, fun _ hmem ↦ absurd hmem List.not_mem_nil⟩

theorem Grows.mono {before after : List EventRow} {origin weaker : EventRow → Prop}
    (hgrows : Grows before after origin) (hweaker : ∀ event, origin event → weaker event) :
    Grows before after weaker := by
  obtain ⟨events, hafter, horigin⟩ := hgrows
  exact ⟨events, hafter, fun event hmem ↦ ⟨(horigin event hmem).1,
    hweaker event (horigin event hmem).2⟩⟩

theorem one_le_nextSequence (events : List EventRow) (runId : String) :
    1 ≤ nextSequence events runId :=
  Nat.le_add_left 1 _

theorem grows_of_note {log : List EventRow} {runId eventType : String} {payload : Payload}
    {createdAt : String} {origin : EventRow → Prop}
    (horigin : origin (newEvent log runId eventType payload createdAt)) :
    Grows log (log ++ [newEvent log runId eventType payload createdAt]) origin := by
  refine ⟨_, rfl, fun event hmem ↦ ?_⟩
  obtain rfl := List.mem_singleton.mp hmem
  exact ⟨one_le_nextSequence _ _, horigin⟩

theorem grows_of_workflow {db after : Database} {reading : Reading} {call : WorkflowCall}
    (hchange : WorkflowChange db reading call after) :
    Grows db.workflowEvents after.workflowEvents (WorkflowOrigin call) := by
  cases hchange with
  | same hafter => exact hafter ▸ .refl _ _
  | createExecution runId workflowType inputHash token hcall hnone hafter =>
    subst hafter
    exact .refl _ _
  | startExecution runId token row hcall hfind hpending hafter =>
    subst hafter
    exact grows_of_note (.ledger (show "workflow.started" ∈ ledgerEventTypes by decide))
  | finalizeExecution runId status eventType result code row hcall hfind hrunning hafter =>
    subst hafter
    refine grows_of_note (.ledger (show eventType ∈ ledgerEventTypes from ?_))
    cases call <;> cases hcall <;> decide
  | reuseStep source target stepId toolName inputHash token step execution hcall hexecution hrunning
      hnone hcopied hafter =>
    subst hafter
    exact grows_of_note (.ledger (show "step.replay_reused" ∈ ledgerEventTypes by decide))
  | claimFresh runId stepId toolName inputHash maxAttempts token execution hcall hexecution hnone
      hafter =>
    subst hafter
    exact grows_of_note (.ledger (show "step.claimed" ∈ ledgerEventTypes by decide))
  | claimRetry runId stepId toolName inputHash maxAttempts token previous hcall hfind hfailed
      hbudget hafter =>
    subst hafter
    exact grows_of_note (.ledger (show "step.claimed" ∈ ledgerEventTypes by decide))
  | finishStep runId stepId attempt token row status result code eventType outcome hcall hfind hheld
      hafter =>
    subst hafter
    refine grows_of_note (.ledger (show eventType ∈ ledgerEventTypes from ?_))
    rcases hcall with ⟨-, -, -, -, -, rfl, -⟩ | ⟨-, -, -, -, -, rfl, -⟩ <;> decide
  | recoverStep runId stepId token row hcall hfind hrunning hafter =>
    subst hafter
    exact grows_of_note (.ledger (show "step.interrupted_recovery" ∈ ledgerEventTypes by decide))
  | prepareAction runId stepId attempt arguments token step run action hcall hrun hstep hheld hnone
      hfreshKey hfreshId haction hafter =>
    subst hafter
    exact grows_of_note (.action (show isActionType "external_action.prepared" = true by decide))
  | beginDispatch runId stepId attempt token action step run hcall hfind hprepared hrun hrunning
      hflag hstep hheld hafter =>
    subst hafter
    exact grows_of_note
      (.action (show isActionType "external_action.dispatch_started" = true by decide))
  | retryDispatch runId stepId previous attempt token action step hcall hfind hdispatching hmode
      hprevious hstep hheld hafter =>
    subst hafter
    exact grows_of_note
      (.action (show isActionType "external_action.dispatch_started" = true by decide))
  | settle settlement outcome action step hcall hchecked hfind hdispatching htoken hstep hheld
      hafter =>
    subst hafter
    have hterminal := (outcomeChecked_of_checkedOutcome hchecked).terminal
    refine ⟨_, recordOutcome_log _ _ _ _ _ _ _, fun event hmem ↦ ?_⟩
    rcases List.mem_pair.mp hmem with rfl | rfl
    · have hsettled : EvidenceOf { action with status := outcome.actionStatus } _ _ :=
        .settled outcome.actionStatus hterminal hterminal
      exact ⟨one_le_nextSequence _ _, .action hsettled.isActionType⟩
    · refine ⟨one_le_nextSequence _ _, .ledger ?_⟩
      simp only [settledStepEvent, newEvent]
      split <;> decide
  | appendEvent runId eventType payload token execution hcall hexecution hafter =>
    subst hafter
    exact grows_of_note (.caller token hcall)

/-! ### The Run log -/

/-- Where a new event of a Run's log comes from. -/
inductive RunOrigin (call : RunCall) (event : EventRow) : Prop
  | run (htype : event.eventType ∈ runEventTypes)
  | caller (token : Option String)
    (hcall : call = .appendAttemptEvent event.runId token event.eventType event.payload)

theorem grows_of_appendNotes {log : List EventRow} {runId : String} {notes : List Note}
    {origin : EventRow → Prop}
    (horigin : ∀ note ∈ notes, ∀ event : EventRow, event.runId = runId →
      event.eventType = note.eventType → event.payload = note.payload → origin event) :
    Grows log (appendNotes log runId notes) origin := by
  induction notes generalizing log with
  | nil => exact .refl _ _
  | cons note rest ih =>
    obtain ⟨events, hevents, hrest⟩ := ih fun other hmem ↦
      horigin other (List.mem_cons_of_mem _ hmem)
    refine ⟨newEvent log runId note.eventType note.payload note.createdAt :: events, ?_, ?_⟩
    · rw [appendNotes, List.foldl_cons]
      exact hevents.trans (List.append_assoc _ _ _)
    · intro event hmem
      rcases List.mem_cons.mp hmem with rfl | hlater
      · exact ⟨one_le_nextSequence _ _, horigin note List.mem_cons_self _ rfl rfl rfl⟩
      · exact hrest event hlater

theorem RowChange.origin {db : Database} {reading : Reading} {call : RunCall} {runId : String}
    {row rewritten : RunRow} {notes : List Note}
    (hchange : RowChange db reading call runId row rewritten notes) :
    ∀ note ∈ notes, ∀ event : EventRow, event.runId = runId → event.eventType = note.eventType →
      event.payload = note.payload → RunOrigin call event := by
  intro note hmem event hrun htype hpayload
  cases hchange with
  | attemptEvent token eventType payload hcall =>
    obtain rfl := List.mem_singleton.mp hmem
    refine .caller (some token) ?_
    rw [hrun, htype, hpayload, hcall]
  | controlEvent eventType payload hcall hcontrol =>
    obtain rfl := List.mem_singleton.mp hmem
    refine .run ?_
    rw [htype]
    exact List.mem_append_left _ (List.mem_append_right _ hcontrol)
  | renew | expire | marker => cases hmem
  | claimQueued | requestCancel | cancelQueued | fail | cancel | quarantine =>
    obtain rfl := List.mem_singleton.mp hmem
    refine .run ?_
    rw [htype]
    dsimp only
    decide
  | takeover | conflict | resolve =>
    rcases List.mem_pair.mp hmem with rfl | rfl
    all_goals
      refine .run ?_
      rw [htype]
      dsimp only
      decide

theorem grows_of_run {db after : Database} {reading : Reading} {call : RunCall}
    (hchange : RunChange db reading call after) :
    Grows db.runEvents after.runEvents (RunOrigin call) := by
  cases hchange with
  | same htables => exact htables.2.1 ▸ .refl _ _
  | created run notes hcall hnew hfresh hseed hruns hevents hthreads =>
    rw [hevents]
    refine grows_of_appendNotes fun note hmem event hrun htype hpayload ↦ .run ?_
    rcases hcall with ⟨-, rfl⟩ | ⟨payload, -, rfl⟩
    · cases hmem
    · rw [htype, List.mem_singleton.mp hmem]
      dsimp only
      decide
  | rewritten runId row rewritten notes hfind hrow hruns hevents hthreads =>
    rw [hevents]
    exact grows_of_appendNotes hrow.origin
  | completed run token row state hcall hcompletion =>
    rw [hcompletion.events]
    refine grows_of_appendNotes fun note hmem event hrun htype hpayload ↦ .run ?_
    rw [htype]
    rcases List.mem_pair.mp hmem with rfl | rfl
    all_goals
      dsimp only
      decide

/-! ### One request -/

/-- What a request adds to the two logs. -/
theorem logs_of_apply (hasher : Hasher) (db : Database) (request : Request) :
    (Grows db.workflowEvents (request.apply hasher db).workflowEvents fun event ↦
      ∃ call, request.call = .workflow call ∧ WorkflowOrigin call event) ∧
    Grows db.runEvents (request.apply hasher db).runEvents fun event ↦
      ∃ call, request.call = .run call ∧ RunOrigin call event := by
  constructor
  · rcases ledger_of_apply hasher db request with hsame | ⟨call, hcall, hchange⟩
    · rw [hsame.2.2.2]
      exact .refl _ _
    · exact (grows_of_workflow hchange).mono fun event horigin ↦ ⟨call, hcall, horigin⟩
  · rcases runTables_of_apply hasher db request with hsame | ⟨call, hcall, hchange⟩
    · rw [hsame.2.1]
      exact .refl _ _
    · exact (grows_of_run hchange).mono fun event horigin ↦ ⟨call, hcall, horigin⟩

end AgentRuntime.Store
