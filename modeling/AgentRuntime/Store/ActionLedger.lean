import Mathlib.Data.List.Range
import AgentRuntime.Store.ActionTransitions

/-!
# The external-action ledger

Eight operations write `external_actions`, and two other tables answer to it: the parent step in
`tool_calls` and the dispatches in `workflow_events`. `ActionInOrder` says how the three agree for
one row, and `LedgerInOrder` that every row agrees, with what the steps of the induction need
besides.

The tokens in the arguments are arbitrary, and the provider-outcome finalizers take no lease, so a
call may come from a worker that lost its Run long ago. What is assumed of the callers is
`keepsParent`: the parent step of an action is claimed for one attempt only and finished by the
finalizers of the action, and nobody writes a dispatch event by hand.
-/

set_option autoImplicit false
set_option relaxedAutoImplicit false

namespace AgentRuntime.Store

open Library

/-! ### The dispatches of an action -/

/-- The event records a dispatch of the action. -/
def EventRow.startsDispatch (event : EventRow) (actionId : String) : Bool :=
  event.eventType == "external_action.dispatch_started" &&
    event.payload.getD "action_id" == .str actionId

/-- The dispatch counts that the events of an action carry, in the order they were written. -/
def dispatchCounts (db : Database) (actionId : String) : List Json :=
  (db.workflowEvents.filter fun event ↦ event.startsDispatch actionId).map
    fun event ↦ event.payload.getD "dispatch_count"

theorem dispatchCounts_append {db after : Database} {events : List EventRow}
    (hlog : after.workflowEvents = db.workflowEvents ++ events) (actionId : String) :
    dispatchCounts after actionId = dispatchCounts db actionId ++
      (events.filter fun event ↦ event.startsDispatch actionId).map
        fun event ↦ event.payload.getD "dispatch_count" := by
  unfold dispatchCounts
  rw [hlog, List.filter_append, List.map_append]

/-- The counts `1..n`. -/
def countsUpTo (n : Nat) : List Json := (List.range' 1 n).map Json.nat

theorem countsUpTo_succ (n : Nat) : countsUpTo (n + 1) = countsUpTo n ++ [Json.nat (n + 1)] := by
  unfold countsUpTo
  rw [List.range'_concat, List.map_append, List.map_singleton, Nat.one_mul, Nat.add_comm 1 n]

/-! ### Agreement of the three tables -/

/-- The parent step says what the action says. -/
structure StepAgrees (action : ExternalActionRow) (step : ToolCallRow) : Prop where
  open_running : action.status.isTerminal = false → step.status = .running
  succeeded : action.status = .succeeded ↔
    step.status = .completed ∧ step.resultJson = action.resultJson
  unsuccessful : action.status = .failed ∨ action.status = .outcomeUnknown ↔
    step.status = .failed ∧ step.errorCode = action.errorCode

/-- One row of `external_actions`, its parent step and its dispatch events agree. -/
structure ActionInOrder (db : Database) (key : String × String) (action : ExternalActionRow) :
    Prop where
  prepared : action.status = .prepared ↔ action.dispatchCount = 0
  blank : action.status = .prepared → action.dispatchToken = none ∧
    action.providerReference = none ∧ action.resultJson = none ∧ action.errorCode = none ∧
    action.finalizedAt = none
  dispatched : action.status ≠ .prepared →
    1 ≤ action.dispatchCount ∧ action.dispatchToken.isSome = true
  counts : dispatchCounts db action.actionId = countsUpTo action.dispatchCount
  parent : ∃ step, db.toolCalls.find key = some step ∧ StepAgrees action step

/-- Every row of `external_actions` is in order. -/
structure LedgerInOrder (db : Database) : Prop where
  rows : ∀ key action, db.externalActions.find key = some action → ActionInOrder db key action
  distinct : ∀ key other action twin, db.externalActions.find key = some action →
    db.externalActions.find other = some twin → action.actionId = twin.actionId → key = other
  owned : ∀ event ∈ db.workflowEvents,
    event.eventType = "external_action.dispatch_started" →
      ∃ key action, db.externalActions.find key = some action ∧
        event.payload.getD "action_id" = .str action.actionId
  attempted : ∀ key step, db.toolCalls.find key = some step → step.status = .running ∨
    (db.externalActions.find key).isSome = true → 1 ≤ step.attemptCount

theorem ledgerInOrder_empty : LedgerInOrder Database.empty where
  rows key action hfind := by cases hfind
  distinct key other action twin hfind := by cases hfind
  owned event hmem := by cases hmem
  attempted key step hfind := by cases hfind

/-! ### What is asked of the callers -/

/-- A call of the workflow store leaves the parent steps of actions to their finalizers. -/
def WorkflowCall.keepsParent (db : Database) : WorkflowCall → Bool
  | claimStep runId stepId _ _ maxAttempts _ =>
    (db.externalActions.find (runId, stepId)).isNone || maxAttempts == 1
  | completeStep runId stepId .. | failStep runId stepId ..
  | recoverInterruptedStep runId stepId _ =>
    (db.externalActions.find (runId, stepId)).isNone
  | appendEvent _ eventType _ _ => eventType != "external_action.dispatch_started"
  | _ => true

/-- A request leaves the parent steps of actions to their finalizers. -/
def Request.keepsParent (db : Database) (request : Request) : Bool :=
  match request.call with
  | .workflow call => call.keepsParent db
  | _ => true

/-! ### Changes that no action notices -/

/-- The actions and their parent steps stay, and no dispatch is logged. -/
structure Unnoticed (db after : Database) : Prop where
  actions : after.externalActions = db.externalActions
  parents : ∀ key action, db.externalActions.find key = some action →
    ∀ step, db.toolCalls.find key = some step → after.toolCalls.find key = some step
  attempted : ∀ key step, after.toolCalls.find key = some step →
    db.toolCalls.find key = some step ∨
      (db.externalActions.find key = none ∧ (step.status = .running → 1 ≤ step.attemptCount))
  log : ∃ events, after.workflowEvents = db.workflowEvents ++ events ∧
    ∀ event ∈ events, event.eventType ≠ "external_action.dispatch_started"

theorem unnoticed_of_same {db after : Database} {events : List EventRow}
    (hactions : after.externalActions = db.externalActions)
    (hsteps : after.toolCalls = db.toolCalls)
    (hlog : after.workflowEvents = db.workflowEvents ++ events)
    (hquiet : ∀ event ∈ events, event.eventType ≠ "external_action.dispatch_started") :
    Unnoticed db after where
  actions := hactions
  parents _ _ _ _ hstep := hsteps ▸ hstep
  attempted _ _ hstep := .inl (hsteps ▸ hstep)
  log := ⟨events, hlog, hquiet⟩

theorem dispatchCounts_of_quiet {db after : Database} {events : List EventRow}
    (hlog : after.workflowEvents = db.workflowEvents ++ events)
    (hquiet : ∀ event ∈ events, event.eventType ≠ "external_action.dispatch_started")
    (actionId : String) : dispatchCounts after actionId = dispatchCounts db actionId := by
  have hnone : (events.filter fun event ↦ event.startsDispatch actionId) = [] := by
    rw [List.filter_eq_nil_iff]
    intro event hmem hstarts
    rw [EventRow.startsDispatch, Bool.and_eq_true, beq_iff_eq] at hstarts
    exact hquiet event hmem hstarts.1
  rw [dispatchCounts_append hlog, hnone, List.map_nil, List.append_nil]

theorem LedgerInOrder.unnoticed {db after : Database} (horder : LedgerInOrder db)
    (hunnoticed : Unnoticed db after) : LedgerInOrder after where
  rows key action hfind := by
    obtain ⟨events, hlog, hquiet⟩ := hunnoticed.log
    rw [hunnoticed.actions] at hfind
    have hrow := horder.rows key action hfind
    obtain ⟨step, hstep, hagrees⟩ := hrow.parent
    exact
      { prepared := hrow.prepared
        blank := hrow.blank
        dispatched := hrow.dispatched
        counts := (dispatchCounts_of_quiet hlog hquiet _).trans hrow.counts
        parent := ⟨step, hunnoticed.parents key action hfind step hstep, hagrees⟩ }
  distinct key other action twin hfind htwin := by
    rw [hunnoticed.actions] at hfind htwin
    exact horder.distinct key other action twin hfind htwin
  owned event hmem htype := by
    obtain ⟨events, hlog, hquiet⟩ := hunnoticed.log
    rw [hlog, List.mem_append] at hmem
    rw [hunnoticed.actions]
    cases hmem with
    | inl hold => exact horder.owned event hold htype
    | inr hnew => exact (hquiet event hnew htype).elim
  attempted key step hstep hwhen := by
    rw [hunnoticed.actions] at hwhen
    cases hunnoticed.attempted key step hstep with
    | inl hold => exact horder.attempted key step hold hwhen
    | inr hnew =>
      rw [hnew.1] at hwhen
      exact hnew.2 (hwhen.resolve_right (by simp))

/-- A new step is noticed by no action: the parent of an action exists. -/
theorem unnoticed_of_insertStep {db after : Database} {runId stepId : String}
    {step : ToolCallRow} {event : EventRow} (horder : LedgerInOrder db)
    (hnone : db.toolCalls.find (runId, stepId) = none)
    (hactions : after.externalActions = db.externalActions)
    (hsteps : after.toolCalls = db.toolCalls.insert (runId, stepId) step)
    (hlog : after.workflowEvents = db.workflowEvents ++ [event])
    (hattempts : step.status = .running → 1 ≤ step.attemptCount)
    (hquiet : event.eventType ≠ "external_action.dispatch_started") : Unnoticed db after where
  actions := hactions
  parents key action _ row hrow := by
    have hkey : key ≠ (runId, stepId) := by
      intro heq
      rw [heq, hnone] at hrow
      cases hrow
    rw [hsteps, Table.find_insert_of_fresh _ _ _ _ hnone, if_neg hkey]
    exact hrow
  attempted key row hrow := by
    rw [hsteps, Table.find_insert_of_fresh _ _ _ _ hnone] at hrow
    split_ifs at hrow with hkey
    · have haction : db.externalActions.find key = none := by
        cases hfind : db.externalActions.find key with
        | none => rfl
        | some action =>
          obtain ⟨parent, hparent, -⟩ := (horder.rows key action hfind).parent
          rw [hkey, hnone] at hparent
          cases hparent
      obtain rfl := Option.some.inj hrow
      exact .inr ⟨haction, hattempts⟩
    · exact .inl hrow
  log := ⟨[event], hlog, fun _ hmem ↦ List.mem_singleton.mp hmem ▸ hquiet⟩

/-- A rewritten step without an action is noticed by no action. -/
theorem unnoticed_of_updateStep {db after : Database} {runId stepId : String}
    {step : ToolCallRow} {event : EventRow}
    (hnone : db.externalActions.find (runId, stepId) = none)
    (hactions : after.externalActions = db.externalActions)
    (hsteps : after.toolCalls = db.toolCalls.modify (runId, stepId) fun _ ↦ step)
    (hlog : after.workflowEvents = db.workflowEvents ++ [event])
    (hattempts : step.status = .running → 1 ≤ step.attemptCount)
    (hquiet : event.eventType ≠ "external_action.dispatch_started") : Unnoticed db after where
  actions := hactions
  parents key action hfind row hrow := by
    have hkey : key ≠ (runId, stepId) := by
      intro heq
      rw [heq, hnone] at hfind
      cases hfind
    rw [hsteps, Table.find_modify, if_neg hkey]
    exact hrow
  attempted key row hrow := by
    rw [hsteps, Table.find_modify] at hrow
    split_ifs at hrow with hkey
    · rw [Option.map_eq_some_iff] at hrow
      obtain ⟨-, -, rfl⟩ := hrow
      exact .inr ⟨hkey ▸ hnone, hattempts⟩
    · exact .inl hrow
  log := ⟨[event], hlog, fun _ hmem ↦ List.mem_singleton.mp hmem ▸ hquiet⟩

/-! ### A prepared action -/

theorem dispatchCounts_of_fresh {db : Database} {actionId : String} (horder : LedgerInOrder db)
    (hfresh : ∀ key action, db.externalActions.find key = some action →
      action.actionId ≠ actionId) : dispatchCounts db actionId = [] := by
  unfold dispatchCounts
  rw [List.map_eq_nil_iff, List.filter_eq_nil_iff]
  intro event hmem hstarts
  rw [EventRow.startsDispatch, Bool.and_eq_true, beq_iff_eq, beq_iff_eq] at hstarts
  obtain ⟨key, action, hfind, hid⟩ := horder.owned event hmem hstarts.1
  rw [hstarts.2, Json.str.injEq] at hid
  exact hfresh key action hfind hid.symm

theorem stepAgrees_of_prepared {action : ExternalActionRow} {step : ToolCallRow}
    (hprepared : action.status = .prepared) (hrunning : step.status = .running) :
    StepAgrees action step := by
  constructor
  · exact fun _ ↦ hrunning
  · simp [hprepared, hrunning]
  · simp [hprepared, hrunning]

theorem LedgerInOrder.prepare {db after : Database} {runId stepId : String}
    {action : ExternalActionRow} {step : ToolCallRow} {event : EventRow}
    (horder : LedgerInOrder db) (hstep : db.toolCalls.find (runId, stepId) = some step)
    (hrunning : step.status = .running)
    (hnone : db.externalActions.find (runId, stepId) = none)
    (hfresh : ∀ key row, db.externalActions.find key = some row →
      row.actionId ≠ action.actionId)
    (hnever : NeverDispatched action)
    (hblank : action.providerReference = none ∧ action.resultJson = none ∧
      action.errorCode = none ∧ action.finalizedAt = none)
    (hactions : after.externalActions = db.externalActions.insert (runId, stepId) action)
    (hsteps : after.toolCalls = db.toolCalls)
    (hlog : after.workflowEvents = db.workflowEvents ++ [event])
    (hquiet : event.eventType ≠ "external_action.dispatch_started") : LedgerInOrder after := by
  have hfind (key : String × String) : after.externalActions.find key =
      if key = (runId, stepId) then some action else db.externalActions.find key := by
    rw [hactions]
    exact Table.find_insert_of_fresh _ _ _ _ hnone
  have hkept (key : String × String) (row : ExternalActionRow)
      (hrow : db.externalActions.find key = some row) :
      after.externalActions.find key = some row := by
    have hkey : key ≠ (runId, stepId) := by
      intro heq
      rw [heq, hnone] at hrow
      cases hrow
    rw [hfind, if_neg hkey, hrow]
  have hcounts (actionId : String) : dispatchCounts after actionId = dispatchCounts db actionId :=
    dispatchCounts_of_quiet hlog (fun _ hmem ↦ List.mem_singleton.mp hmem ▸ hquiet) actionId
  constructor
  case rows =>
    intro key row hrow
    rw [hfind] at hrow
    split_ifs at hrow with hkey
    · obtain rfl := Option.some.inj hrow
      exact
        { prepared := by simp [hnever.status, hnever.count]
          blank := fun _ ↦ ⟨hnever.token, hblank⟩
          dispatched := fun hne ↦ (hne hnever.status).elim
          counts := by
            rw [hcounts, dispatchCounts_of_fresh horder hfresh, hnever.count]
            rfl
          parent := by
            rw [hsteps, hkey]
            exact ⟨step, hstep, stepAgrees_of_prepared hnever.status hrunning⟩ }
    · have hold := horder.rows key row hrow
      exact
        { prepared := hold.prepared
          blank := hold.blank
          dispatched := hold.dispatched
          counts := (hcounts _).trans hold.counts
          parent := hsteps ▸ hold.parent }
  case distinct =>
    intro key other row twin hrow htwin hid
    rw [hfind] at hrow htwin
    split_ifs at hrow htwin with hkey hother hother
    · rw [hkey, hother]
    · obtain rfl := Option.some.inj hrow
      exact (hfresh other twin htwin hid.symm).elim
    · obtain rfl := Option.some.inj htwin
      exact (hfresh key row hrow hid).elim
    · exact horder.distinct key other row twin hrow htwin hid
  case owned =>
    intro known hmem htype
    rw [hlog, List.mem_append] at hmem
    cases hmem with
    | inl hold =>
      obtain ⟨key, row, hrow, hid⟩ := horder.owned known hold htype
      exact ⟨key, row, hkept key row hrow, hid⟩
    | inr hnew => exact (hquiet (List.mem_singleton.mp hnew ▸ htype)).elim
  case attempted =>
    intro key row hrow hwhen
    rw [hsteps] at hrow
    rw [hfind] at hwhen
    split_ifs at hwhen with hkey
    · rw [hkey, hstep] at hrow
      obtain rfl := Option.some.inj hrow
      exact horder.attempted (runId, stepId) _ hstep (.inl hrunning)
    · exact horder.attempted key row hrow hwhen

/-! ### A rewritten action -/

/-- Only the action under `key`, its parent step and the log change, and every dispatch that is
logged is one of this action. -/
structure Rewrites (db after : Database) (key : String × String) (action next : ExternalActionRow)
    (events : List EventRow) : Prop where
  find : db.externalActions.find key = some action
  actionId : next.actionId = action.actionId
  actions : ∀ other, after.externalActions.find other =
    if other = key then some next else db.externalActions.find other
  steps : ∀ other, other ≠ key → after.toolCalls.find other = db.toolCalls.find other
  attempts : ∀ step, after.toolCalls.find key = some step →
    ∃ previous, db.toolCalls.find key = some previous ∧ step.attemptCount = previous.attemptCount
  log : after.workflowEvents = db.workflowEvents ++ events
  own : ∀ event ∈ events, event.eventType = "external_action.dispatch_started" →
    event.payload.getD "action_id" = .str action.actionId

theorem Rewrites.counts {db after : Database} {key other : String × String}
    {action next row : ExternalActionRow} {events : List EventRow} (horder : LedgerInOrder db)
    (hrewrites : Rewrites db after key action next events)
    (hrow : db.externalActions.find other = some row) (hother : other ≠ key) :
    dispatchCounts after row.actionId = dispatchCounts db row.actionId := by
  have hnone : (events.filter fun event ↦ event.startsDispatch row.actionId) = [] := by
    rw [List.filter_eq_nil_iff]
    intro event hmem hstarts
    rw [EventRow.startsDispatch, Bool.and_eq_true, beq_iff_eq, beq_iff_eq] at hstarts
    have hid := hrewrites.own event hmem hstarts.1
    rw [hstarts.2, Json.str.injEq] at hid
    exact hother (horder.distinct other key row action hrow hrewrites.find hid)
  rw [dispatchCounts_append hrewrites.log, hnone, List.map_nil, List.append_nil]

theorem LedgerInOrder.rewrite {db after : Database} {key : String × String}
    {action next : ExternalActionRow} {events : List EventRow} (horder : LedgerInOrder db)
    (hrewrites : Rewrites db after key action next events)
    (hrow : ActionInOrder after key next) : LedgerInOrder after := by
  have hid (other : String × String) (row : ExternalActionRow)
      (hfind : after.externalActions.find other = some row) :
      ∃ previous, db.externalActions.find other = some previous ∧
        previous.actionId = row.actionId := by
    rw [hrewrites.actions] at hfind
    split_ifs at hfind with hother
    · obtain rfl := Option.some.inj hfind
      exact ⟨action, hother ▸ hrewrites.find, hrewrites.actionId.symm⟩
    · exact ⟨row, hfind, rfl⟩
  constructor
  case rows =>
    intro other row hfind
    rw [hrewrites.actions] at hfind
    split_ifs at hfind with hother
    · obtain rfl := Option.some.inj hfind
      exact hother ▸ hrow
    · have hold := horder.rows other row hfind
      exact
        { prepared := hold.prepared
          blank := hold.blank
          dispatched := hold.dispatched
          counts := (hrewrites.counts horder hfind hother).trans hold.counts
          parent := by
            rw [hrewrites.steps other hother]
            exact hold.parent }
  case distinct =>
    intro first second row twin hfirst hsecond heq
    obtain ⟨oldRow, holdRow, hrowId⟩ := hid first row hfirst
    obtain ⟨oldTwin, holdTwin, htwinId⟩ := hid second twin hsecond
    exact horder.distinct first second oldRow oldTwin holdRow holdTwin
      (hrowId.trans (heq.trans htwinId.symm))
  case owned =>
    intro event hmem htype
    rw [hrewrites.log, List.mem_append] at hmem
    cases hmem with
    | inl hold =>
      obtain ⟨other, row, hfind, howner⟩ := horder.owned event hold htype
      by_cases hother : other = key
      · subst hother
        obtain rfl := Option.some.inj (hfind.symm.trans hrewrites.find)
        refine ⟨other, next, ?_, howner.trans (congrArg Json.str hrewrites.actionId.symm)⟩
        rw [hrewrites.actions, if_pos rfl]
      · refine ⟨other, row, ?_, howner⟩
        rw [hrewrites.actions, if_neg hother, hfind]
    | inr hnew =>
      refine ⟨key, next, ?_, ?_⟩
      · rw [hrewrites.actions, if_pos rfl]
      · rw [hrewrites.own event hnew htype, hrewrites.actionId]
  case attempted =>
    intro other step hstep hwhen
    by_cases hother : other = key
    · subst hother
      obtain ⟨previous, hprevious, hattempts⟩ := hrewrites.attempts step hstep
      rw [hattempts]
      refine horder.attempted other previous hprevious (.inr ?_)
      rw [hrewrites.find]
      rfl
    · rw [hrewrites.steps other hother] at hstep
      rw [hrewrites.actions, if_neg hother] at hwhen
      exact horder.attempted other step hstep hwhen

/-! ### A dispatch -/

theorem startsDispatch_dispatchStarted (db : Database) (reading : Reading)
    (runId stepId : String) (action : ExternalActionRow) (retry : Bool) :
    (dispatchStarted db reading runId stepId action retry).startsDispatch action.actionId =
      true := by
  simp [EventRow.startsDispatch, dispatchStarted, newEvent, dispatchStartedPayload,
    dispatchedAction, Payload.getD, Payload.get?, Json.lookup]

theorem dispatchCount_dispatchStarted (db : Database) (reading : Reading)
    (runId stepId : String) (action : ExternalActionRow) (retry : Bool) :
    (dispatchStarted db reading runId stepId action retry).payload.getD "dispatch_count" =
      Json.nat (action.dispatchCount + 1) := by
  simp [dispatchStarted, newEvent, dispatchStartedPayload, dispatchedAction, Payload.getD,
    Payload.get?, Json.lookup]

theorem rewrites_recordDispatch {db : Database} {reading : Reading} {runId stepId : String}
    {action : ExternalActionRow} {retry : Bool}
    (hfind : db.externalActions.find (runId, stepId) = some action) :
    Rewrites db (recordDispatch db reading runId stepId action retry) (runId, stepId) action
      (dispatchedAction action ("dispatch_" ++ reading.uuid 0) (reading.utcNow 0))
      [dispatchStarted db reading runId stepId action retry] where
  find := hfind
  actionId := rfl
  actions other := by
    rw [recordDispatch_find]
    split_ifs with hother
    · rw [hother, hfind]
      rfl
    · rfl
  steps _ _ := rfl
  attempts step hstep := ⟨step, hstep, rfl⟩
  log := recordDispatch_log _ _ _ _ _ _
  own event hmem _ := by
    have hstarts := startsDispatch_dispatchStarted db reading runId stepId action retry
    rw [EventRow.startsDispatch, Bool.and_eq_true, beq_iff_eq, beq_iff_eq] at hstarts
    exact List.mem_singleton.mp hmem ▸ hstarts.2

theorem LedgerInOrder.dispatch {db : Database} {reading : Reading} {runId stepId : String}
    {action : ExternalActionRow} {retry : Bool} (horder : LedgerInOrder db)
    (hfind : db.externalActions.find (runId, stepId) = some action)
    (hopen : action.status.isTerminal = false) :
    LedgerInOrder (recordDispatch db reading runId stepId action retry) := by
  have hrewrites : Rewrites db (recordDispatch db reading runId stepId action retry) _ _ _ _ :=
    rewrites_recordDispatch hfind
  have hold := horder.rows _ _ hfind
  obtain ⟨step, hstep, hagrees⟩ := hold.parent
  have hrunning := hagrees.open_running hopen
  refine horder.rewrite hrewrites ?_
  constructor
  case prepared => simp [dispatchedAction]
  case blank => simp [dispatchedAction]
  case dispatched =>
    intro _
    exact ⟨Nat.succ_pos _, rfl⟩
  case counts =>
    -- the new event carries the next number of this action
    change dispatchCounts _ action.actionId = countsUpTo (action.dispatchCount + 1)
    rw [dispatchCounts_append hrewrites.log, hold.counts, countsUpTo_succ]
    simp [startsDispatch_dispatchStarted, dispatchCount_dispatchStarted]
  case parent =>
    refine ⟨step, hstep, ?_, ?_, ?_⟩
    · exact fun _ ↦ hrunning
    · simp [dispatchedAction, hrunning]
    · simp [dispatchedAction, hrunning]

/-! ### A settled action -/

/-- What the argument checks of a finalizer leave. -/
structure OutcomeChecked (outcome : ExternalActionOutcome) : Prop where
  terminal : outcome.actionStatus.isTerminal = true
  succeeded : outcome.actionStatus = .succeeded → outcome.toolStatus = .completed ∧
    (∃ fields, outcome.resultJson = some (.obj fields)) ∧
    (outcome.providerReference.getD "").isEmpty = false ∧ outcome.errorCode = none
  unsuccessful : outcome.actionStatus ≠ .succeeded → outcome.toolStatus = .failed ∧
    outcome.resultJson = none ∧ (outcome.errorCode.getD "").isEmpty = false

theorem outcomeChecked_of_checkedOutcome {outcome checked : ExternalActionOutcome}
    (hchecked : checkedOutcome outcome = .ok checked) : OutcomeChecked checked := by
  obtain ⟨hstatus, hterminal⟩ := checkedOutcome_status hchecked
  unfold checkedOutcome at hchecked
  split_ifs at hchecked with _ hsucceeded hcompleted hreference herror hfailed
  · split at hchecked
    · next fields hresult =>
      obtain rfl := Except.ok.inj hchecked
      simp only [not_or, not_not] at hcompleted
      refine ⟨hterminal, fun _ ↦ ⟨hcompleted.1, ⟨_, rfl⟩, ?_, ?_⟩, fun hne ↦ (hne hsucceeded).elim⟩
      · simpa using hreference
      · simpa using herror
    · cases hchecked
  · obtain rfl := Except.ok.inj hchecked
    simp only [not_or, not_not] at hfailed
    refine ⟨hterminal, fun heq ↦ (hsucceeded heq).elim, fun _ ↦ ⟨hfailed.1, rfl, ?_⟩⟩
    simpa using hfailed.2

/-- The event that records the outcome of an action. -/
def outcomeEvent (db : Database) (reading : Reading) (runId stepId : String)
    (action : ExternalActionRow) (outcome : ExternalActionOutcome) : EventRow :=
  newEvent db.workflowEvents runId ("external_action." ++ outcome.actionStatus.text)
    (outcomePayload stepId action outcome) (reading.utcNow 1)

/-- The parent step of a settled action. -/
def settledStep (reading : Reading) (step : ToolCallRow) (outcome : ExternalActionOutcome) :
    ToolCallRow :=
  finishedStep step outcome.toolStatus outcome.resultJson outcome.errorCode (reading.utcNow 0)

/-- The event that records the parent step of a settled action. -/
def settledStepEvent (db : Database) (reading : Reading) (runId stepId : String)
    (action : ExternalActionRow) (step : ToolCallRow) (outcome : ExternalActionOutcome) :
    EventRow :=
  newEvent (db.workflowEvents ++ [outcomeEvent db reading runId stepId action outcome]) runId
    (if outcome.toolStatus == .completed then "step.completed" else "step.failed")
    (stepFinishedPayload stepId (settledStep reading step outcome)
      (if outcome.toolStatus == .completed then "completed" else "failed")) (reading.utcNow 2)

theorem recordOutcome_log (db : Database) (reading : Reading) (runId stepId : String)
    (action : ExternalActionRow) (step : ToolCallRow) (outcome : ExternalActionOutcome) :
    (recordOutcome db reading runId stepId action step outcome).workflowEvents =
      db.workflowEvents ++ [outcomeEvent db reading runId stepId action outcome,
        settledStepEvent db reading runId stepId action step outcome] :=
  List.append_assoc _ _ _

theorem recordOutcome_step (db : Database) (reading : Reading) (runId stepId : String)
    (action : ExternalActionRow) (step : ToolCallRow) (outcome : ExternalActionOutcome)
    (key : String × String) :
    (recordOutcome db reading runId stepId action step outcome).toolCalls.find key =
      if key = (runId, stepId) then
        (db.toolCalls.find key).map fun _ ↦ settledStep reading step outcome
      else db.toolCalls.find key :=
  Table.find_modify _ _ _ _

theorem outcomeEvent_quiet {outcome : ExternalActionOutcome}
    (hterminal : outcome.actionStatus.isTerminal = true) :
    "external_action." ++ outcome.actionStatus.text ≠ "external_action.dispatch_started" := by
  cases hstatus : outcome.actionStatus with
  | prepared | dispatching =>
    rw [hstatus] at hterminal
    cases hterminal
  | succeeded | failed | outcomeUnknown => decide

theorem settled_quiet {db : Database} {reading : Reading} {runId stepId : String}
    {action : ExternalActionRow} {step : ToolCallRow} {outcome : ExternalActionOutcome}
    (hterminal : outcome.actionStatus.isTerminal = true) :
    ∀ event ∈ [outcomeEvent db reading runId stepId action outcome,
      settledStepEvent db reading runId stepId action step outcome],
      event.eventType ≠ "external_action.dispatch_started" := by
  intro event hmem
  rcases List.mem_pair.mp hmem with rfl | rfl
  · exact outcomeEvent_quiet hterminal
  · simp only [settledStepEvent, newEvent]
    split <;> decide

theorem rewrites_recordOutcome {db : Database} {reading : Reading} {runId stepId : String}
    {action : ExternalActionRow} {step : ToolCallRow} {outcome : ExternalActionOutcome}
    (hfind : db.externalActions.find (runId, stepId) = some action)
    (hstep : db.toolCalls.find (runId, stepId) = some step)
    (hterminal : outcome.actionStatus.isTerminal = true) :
    Rewrites db (recordOutcome db reading runId stepId action step outcome) (runId, stepId) action
      (finalizedAction action outcome (reading.utcNow 0))
      [outcomeEvent db reading runId stepId action outcome,
        settledStepEvent db reading runId stepId action step outcome] where
  find := hfind
  actionId := rfl
  actions other := by
    rw [recordOutcome_find]
    split_ifs with hother
    · rw [hother, hfind]
      rfl
    · rfl
  steps other hother := by rw [recordOutcome_step, if_neg hother]
  attempts next hnext := by
    rw [recordOutcome_step, if_pos rfl, hstep] at hnext
    exact ⟨step, hstep, Option.some.inj hnext ▸ rfl⟩
  log := recordOutcome_log _ _ _ _ _ _ _
  own event hmem htype := (settled_quiet hterminal event hmem htype).elim

theorem stepAgrees_of_settled {action : ExternalActionRow} {step : ToolCallRow}
    {outcome : ExternalActionOutcome} {reading : Reading} (hchecked : OutcomeChecked outcome) :
    StepAgrees (finalizedAction action outcome (reading.utcNow 0))
      (settledStep reading step outcome) := by
  by_cases hsucceeded : outcome.actionStatus = .succeeded
  · have htool := (hchecked.succeeded hsucceeded).1
    constructor <;>
      simp [finalizedAction, settledStep, finishedStep, hsucceeded, htool,
        ExternalActionStatus.isTerminal]
  · have htool := (hchecked.unsuccessful hsucceeded).1
    have hterminal := hchecked.terminal
    cases hstatus : outcome.actionStatus <;>
      simp_all [ExternalActionStatus.isTerminal] <;>
      constructor <;>
      simp [finalizedAction, settledStep, finishedStep, hstatus, htool,
        ExternalActionStatus.isTerminal]

theorem LedgerInOrder.settle {db : Database} {reading : Reading} {runId stepId : String}
    {action : ExternalActionRow} {step : ToolCallRow} {outcome : ExternalActionOutcome}
    (horder : LedgerInOrder db)
    (hfind : db.externalActions.find (runId, stepId) = some action)
    (hstep : db.toolCalls.find (runId, stepId) = some step)
    (hdispatching : action.status = .dispatching) (hchecked : OutcomeChecked outcome) :
    LedgerInOrder (recordOutcome db reading runId stepId action step outcome) := by
  have hrewrites : Rewrites db (recordOutcome db reading runId stepId action step outcome)
      (runId, stepId) action (finalizedAction action outcome (reading.utcNow 0)) _ :=
    rewrites_recordOutcome hfind hstep hchecked.terminal
  have hold := horder.rows _ _ hfind
  have hdispatched := hold.dispatched (by simp [hdispatching])
  have hne : outcome.actionStatus ≠ .prepared := by
    intro hprepared
    have hterminal := hchecked.terminal
    rw [hprepared] at hterminal
    cases hterminal
  refine horder.rewrite hrewrites ?_
  constructor
  case prepared =>
    have hpos := hdispatched.1
    constructor
    · exact fun hprepared ↦ (hne hprepared).elim
    · intro hzero
      have hcount : action.dispatchCount = 0 := hzero
      omega
  case blank => exact fun hprepared ↦ (hne hprepared).elim
  case dispatched => exact fun _ ↦ hdispatched
  case counts =>
    exact (dispatchCounts_of_quiet hrewrites.log (settled_quiet hchecked.terminal) _).trans
      hold.counts
  case parent =>
    refine ⟨settledStep reading step outcome, ?_, stepAgrees_of_settled hchecked⟩
    rw [recordOutcome_step, if_pos rfl, hstep]
    rfl

/-! ### One request and all of them -/

theorem eventType_of_verdict {call : WorkflowCall} {runId eventType : String}
    {status : WorkflowStatus} {result : Option Json} {code : Option String}
    (hcall : call.verdict = some (runId, status, eventType, result, code)) :
    eventType ≠ "external_action.dispatch_started" := by
  cases call with
  | finalizeReady | finalizeBlocked | finalizeFailed =>
    obtain ⟨-, -, rfl, -⟩ := Prod.mk.injEq _ _ _ _ ▸ Option.some.inj hcall
    decide
  | _ => cases hcall

/-- A step that is claimed once more is no parent of an action: the one attempt of such a step is
spent. -/
theorem action_of_claimRetry {db : Database} {runId stepId toolName inputHash : String}
    {maxAttempts : Nat} {token : Option String} {previous : ToolCallRow}
    (horder : LedgerInOrder db) (hfind : db.toolCalls.find (runId, stepId) = some previous)
    (hbudget : previous.attemptCount < maxAttempts)
    (hkeeps : (WorkflowCall.claimStep runId stepId toolName inputHash maxAttempts token).keepsParent
      db = true) :
    db.externalActions.find (runId, stepId) = none := by
  cases haction : db.externalActions.find (runId, stepId) with
  | none => rfl
  | some action =>
    have hattempts := horder.attempted (runId, stepId) previous hfind (.inr (by simp [haction]))
    simp only [WorkflowCall.keepsParent, haction, Option.isNone_some, Bool.false_or,
      beq_iff_eq] at hkeeps
    omega

/-- Every committed transition of the workflow store keeps the ledger in order. -/
theorem ledgerInOrder_of_workflow {db after : Database} {reading : Reading} {call : WorkflowCall}
    (horder : LedgerInOrder db) (hchange : WorkflowChange db reading call after)
    (hkeeps : call.keepsParent db = true) : LedgerInOrder after := by
  cases hchange with
  | same hafter => exact hafter ▸ horder
  | createExecution _ _ _ _ _ _ hafter =>
    subst hafter
    exact horder.unnoticed (unnoticed_of_same rfl rfl (List.append_nil _).symm (by simp))
  | startExecution _ _ _ _ _ _ hafter =>
    subst hafter
    refine horder.unnoticed (unnoticed_of_same rfl rfl rfl fun event hmem ↦ ?_)
    rw [List.mem_singleton.mp hmem]
    exact (by decide : "workflow.started" ≠ "external_action.dispatch_started")
  | finalizeExecution _ _ _ _ _ _ hcall _ _ hafter =>
    subst hafter
    refine horder.unnoticed (unnoticed_of_same rfl rfl rfl fun event hmem ↦ ?_)
    rw [List.mem_singleton.mp hmem]
    exact eventType_of_verdict hcall
  | reuseStep _ _ _ _ _ _ step _ _ _ _ hnone hcopied hafter =>
    subst hafter
    refine horder.unnoticed (unnoticed_of_insertStep horder hnone rfl rfl rfl ?_ ?_)
    · intro hrunning
      rw [hcopied] at hrunning
      cases hrunning
    · exact (by decide : "step.replay_reused" ≠ "external_action.dispatch_started")
  | claimFresh _ _ _ _ _ _ _ _ _ hnone hafter =>
    subst hafter
    refine horder.unnoticed (unnoticed_of_insertStep horder hnone rfl rfl rfl ?_ ?_)
    · exact fun _ ↦ le_rfl
    · exact (by decide : "step.claimed" ≠ "external_action.dispatch_started")
  | claimRetry runId stepId _ _ _ _ previous hcall hfind _ hbudget hafter =>
    subst hafter hcall
    have hnone : db.externalActions.find (runId, stepId) = none :=
      action_of_claimRetry horder hfind hbudget hkeeps
    refine horder.unnoticed (unnoticed_of_updateStep hnone rfl rfl rfl ?_ ?_)
    · exact fun _ ↦ Nat.succ_pos _
    · exact (by decide : "step.claimed" ≠ "external_action.dispatch_started")
  | finishStep runId stepId _ _ row status _ _ _ _ hcall hfind hheld hafter =>
    subst hafter
    have hnone : db.externalActions.find (runId, stepId) = none := by
      rcases hcall with ⟨_, rfl, -⟩ | ⟨_, rfl, -⟩ <;>
        simpa [WorkflowCall.keepsParent] using hkeeps
    have hrunning : row.status = .running := (Bool.and_eq_true_iff.mp hheld).1 |> beq_iff_eq.mp
    have hattempts := horder.attempted _ _ hfind (.inl hrunning)
    refine horder.unnoticed (unnoticed_of_updateStep hnone rfl rfl rfl (fun _ ↦ hattempts) ?_)
    rcases hcall with ⟨_, -, -, -, -, rfl, -⟩ | ⟨_, -, -, -, -, rfl, -⟩
    · exact (by decide : "step.completed" ≠ "external_action.dispatch_started")
    · exact (by decide : "step.failed" ≠ "external_action.dispatch_started")
  | recoverStep runId stepId _ row hcall hfind hrunning hafter =>
    subst hafter hcall
    have hnone : db.externalActions.find (runId, stepId) = none := by
      simpa [WorkflowCall.keepsParent] using hkeeps
    have hattempts := horder.attempted _ _ hfind (.inl hrunning)
    refine horder.unnoticed (unnoticed_of_updateStep hnone rfl rfl rfl (fun _ ↦ hattempts) ?_)
    exact (by decide : "step.interrupted_recovery" ≠ "external_action.dispatch_started")
  | prepareAction runId stepId _ _ _ step _ action _ _ hstep hheld hnone _ hfresh haction hafter =>
    subst hafter haction
    have hrunning : step.status = .running := (Bool.and_eq_true_iff.mp hheld).1 |> beq_iff_eq.mp
    refine horder.prepare hstep hrunning hnone hfresh (neverDispatched_preparedAction _ _ _)
      ⟨rfl, rfl, rfl, rfl⟩ rfl rfl rfl ?_
    exact (by decide : "external_action.prepared" ≠ "external_action.dispatch_started")
  | beginDispatch _ _ _ _ _ _ _ _ hfind hprepared _ _ _ _ _ hafter =>
    subst hafter
    exact horder.dispatch hfind (by rw [hprepared]; rfl)
  | retryDispatch _ _ _ _ _ _ _ _ hfind hdispatching _ _ _ _ hafter =>
    subst hafter
    exact horder.dispatch hfind (by rw [hdispatching]; rfl)
  | settle _ _ _ _ _ hchecked hfind hdispatching _ hstep _ hafter =>
    subst hafter
    exact horder.settle hfind hstep hdispatching (outcomeChecked_of_checkedOutcome hchecked)
  | appendEvent _ _ _ _ _ hcall _ hafter =>
    subst hafter hcall
    refine horder.unnoticed (unnoticed_of_same rfl rfl rfl fun event hmem ↦ ?_)
    rw [List.mem_singleton.mp hmem]
    exact bne_iff_ne.mp hkeeps

theorem ledgerInOrder_of_sameLedger {db after : Database} (horder : LedgerInOrder db)
    (hsame : SameLedger db after) : LedgerInOrder after := by
  obtain ⟨-, hsteps, hactions, hlog⟩ := hsame
  have hnothing : after.workflowEvents = db.workflowEvents ++ [] := by rw [hlog, List.append_nil]
  exact horder.unnoticed (unnoticed_of_same hactions hsteps hnothing (by simp))

theorem ledgerInOrder_apply (hasher : Hasher) {db : Database} {request : Request}
    (horder : LedgerInOrder db) (hkeeps : request.keepsParent db = true) :
    LedgerInOrder (request.apply hasher db) := by
  rcases ledger_of_apply hasher db request with hsame | ⟨call, hcall, hchange⟩
  · exact ledgerInOrder_of_sameLedger horder hsame
  · rw [Request.keepsParent, hcall] at hkeeps
    exact ledgerInOrder_of_workflow horder hchange hkeeps

/-- Every transition of the workflow store leaves a terminal action as it is. -/
theorem terminal_of_workflow {db after : Database} {reading : Reading} {call : WorkflowCall}
    {key : String × String} {action : ExternalActionRow}
    (hchange : WorkflowChange db reading call after)
    (hfind : db.externalActions.find key = some action)
    (hterminal : action.status.isTerminal = true) :
    after.externalActions.find key = some action := by
  have hother {other : String × String} {row : ExternalActionRow}
      (hrow : db.externalActions.find other = some row)
      (hopen : row.status.isTerminal = false) : key ≠ other := by
    rintro rfl
    rw [hfind] at hrow
    rw [Option.some.inj hrow, hopen] at hterminal
    cases hterminal
  cases hchange with
  | same hafter => exact hafter ▸ hfind
  | createExecution _ _ _ _ _ _ hafter | startExecution _ _ _ _ _ _ hafter
  | finalizeExecution _ _ _ _ _ _ _ _ _ hafter | reuseStep _ _ _ _ _ _ _ _ _ _ _ _ _ hafter
  | claimFresh _ _ _ _ _ _ _ _ _ _ hafter | claimRetry _ _ _ _ _ _ _ _ _ _ _ hafter
  | finishStep _ _ _ _ _ _ _ _ _ _ _ _ _ hafter | recoverStep _ _ _ _ _ _ _ hafter
  | appendEvent _ _ _ _ _ _ _ hafter => exact hafter ▸ hfind
  | prepareAction runId stepId _ _ _ _ _ _ _ _ _ _ hnone _ _ _ hafter =>
    have hkey : key ≠ (runId, stepId) := by
      intro heq
      rw [heq, hnone] at hfind
      cases hfind
    subst hafter
    exact (Table.find_insert_of_fresh _ _ _ _ hnone).trans ((if_neg hkey).trans hfind)
  | beginDispatch _ _ _ _ _ _ _ _ hrow hprepared _ _ _ _ _ hafter =>
    subst hafter
    rw [recordDispatch_find, if_neg (hother hrow (by rw [hprepared]; rfl)), hfind]
  | retryDispatch _ _ _ _ _ _ _ _ hrow hdispatching _ _ _ _ hafter =>
    subst hafter
    rw [recordDispatch_find, if_neg (hother hrow (by rw [hdispatching]; rfl)), hfind]
  | settle _ _ _ _ _ _ hrow hdispatching _ _ _ hafter =>
    subst hafter
    rw [recordOutcome_find, if_neg (hother hrow (by rw [hdispatching]; rfl)), hfind]

theorem terminal_apply (hasher : Hasher) {db : Database} (request : Request)
    {key : String × String} {action : ExternalActionRow}
    (hfind : db.externalActions.find key = some action)
    (hterminal : action.status.isTerminal = true) :
    (request.apply hasher db).externalActions.find key = some action := by
  rcases ledger_of_apply hasher db request with hsame | ⟨call, -, hchange⟩
  · rw [hsame.2.2.1, hfind]
  · exact terminal_of_workflow hchange hfind hterminal

/-- Whoever calls the stores, in whatever order and with whatever tokens, every external action
agrees with its parent step and with its dispatch events; and a terminal action is never written
again. -/
theorem actions_are_in_order (hasher : Hasher) (history more : List Request)
    (hadmits : (storeMachine hasher).Admits
      (fun db request ↦ request.keepsParent db = true) Database.empty (history ++ more)) :
    let db := (storeMachine hasher).run Database.empty history
    (∀ key action, db.externalActions.find key = some action → ActionInOrder db key action) ∧
      ∀ key action, db.externalActions.find key = some action →
        action.status.isTerminal = true →
        ((storeMachine hasher).run db more).externalActions.find key = some action := by
  intro db
  have hbefore := ((storeMachine hasher).admits_append _ _ _ _ |>.mp hadmits).1
  have horder : LedgerInOrder db := (storeMachine hasher).invariant_run LedgerInOrder
    (fun _ _ hstate hkeeps ↦ ledgerInOrder_apply hasher hstate hkeeps) ledgerInOrder_empty hbefore
  refine ⟨horder.rows, fun key action hfind hterminal ↦ ?_⟩
  exact (storeMachine hasher).invariant_run
    (fun state ↦ state.externalActions.find key = some action)
    (fun _ request hstate _ ↦ terminal_apply hasher request hstate hterminal) hfind
    ((storeMachine hasher).admits_true db more)

/-- The requests of one worker that books a flight: its lease runs out after the dispatch, and the
outcome is recorded by it all the same. -/
def bookingHistory : List Request :=
  let run := { sampleRun "r1" "t0" none with executionAuthority := some ⟨"acme", "alice", []⟩ }
  let lease := some "lease_a"
  [submitRequest run,
    ⟨sampleReading 0 "a", .run (.claimNextRun "w1" 30 none)⟩,
    ⟨sampleReading 1 "b", .workflow (.createOrGetExecution "r1" "travel" "h" lease)⟩,
    ⟨sampleReading 2 "c", .workflow (.claimStep "r1" "s1" "book" "h" 1 lease)⟩,
    ⟨sampleReading 3 "d", .workflow (.prepareExternalAction "r1" "s1" "attempt_c"
      ⟨"acme", "alice", "travel", "book", "air", "air-1", "h", .obj [], .providerIdempotent, "k"⟩
      lease)⟩,
    ⟨sampleReading 4 "e", .workflow (.beginExternalActionDispatch "r1" "s1" "attempt_c" lease)⟩,
    ⟨sampleReading 5 "f", .workflow (.retryExternalActionDispatch "r1" "s1" "dispatch_e"
      "attempt_c" lease)⟩,
    ⟨sampleReading 90000 "g", .workflow (.finalizeExternalActionSucceeded "r1" "s1" "dispatch_f"
      "attempt_c" (.obj [("pnr", .str "X")]) "ref" none)⟩]

set_option maxRecDepth 10000 in
/-- The action that was dispatched twice has the counts one and two, and a completed step. -/
theorem booked_action_is_in_order :
    ∃ action, ((storeMachine sampleHasher).run Database.empty bookingHistory).externalActions.find
        ("r1", "s1") = some action ∧ action.status = .succeeded ∧ action.dispatchCount = 2 ∧
      ActionInOrder ((storeMachine sampleHasher).run Database.empty bookingHistory) ("r1", "s1")
        action := by
  have hadmits : (storeMachine sampleHasher).Admits
      (fun db request ↦ request.keepsParent db = true) Database.empty (bookingHistory ++ []) := by
    decide +kernel
  have hsome : (((storeMachine sampleHasher).run Database.empty
      bookingHistory).externalActions.find ("r1", "s1")).isSome = true := by decide +kernel
  obtain ⟨action, hfind⟩ := Option.isSome_iff_exists.mp hsome
  have hvalues : (((storeMachine sampleHasher).run Database.empty
      bookingHistory).externalActions.find ("r1", "s1")).map
        (fun row ↦ (row.status, row.dispatchCount)) = some (.succeeded, 2) := by decide +kernel
  rw [hfind, Option.map_some, Option.some.injEq, Prod.mk.injEq] at hvalues
  exact ⟨action, hfind, hvalues.1, hvalues.2,
    (actions_are_in_order sampleHasher bookingHistory [] hadmits).1 _ action hfind⟩

end AgentRuntime.Store
