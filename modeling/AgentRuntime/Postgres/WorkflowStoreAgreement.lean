import AgentRuntime.Postgres.WorkflowOperations
import AgentRuntime.Postgres.RunStoreAgreement
import AgentRuntime.Store.LedgerFrame

/-!
# Two workflow stores, one machine

`PostgresWorkflowStore` and `SQLiteWorkflowStore` answer every serial history of workflow operations
alike, from every state the stores can reach, as long as each request is `PortableWorkflow`
(`workflow_stores_agree`). The order of the checks differs; what makes the answers equal is that the
ledger is linked: a step has its execution and an action has its step, so a missing execution means
missing steps and actions too (`Linked`), and that a PENDING execution has no result yet, so
clearing its result changes nothing.

The lists differ: the SQLite store orders the steps and the actions of a Run by `created_at` alone,
the PostgreSQL store by `created_at` and the row's id, as the evidence queries of both Run stores
do. Two steps claimed at one clock reading are listed in different orders
(`tied_steps_are_listed_apart`).
-/

set_option autoImplicit false
set_option relaxedAutoImplicit false

namespace AgentRuntime.Postgres

open Library Store

/-! ### A linked ledger -/

/-- The foreign keys of the ledger hold, and an execution that has not started has no result. -/
structure Linked (db : Database) : Prop where
  steps : ∀ runId stepId step, db.toolCalls.find (runId, stepId) = some step →
    ∃ execution, db.executions.find runId = some execution
  actions : ∀ runId stepId action, db.externalActions.find (runId, stepId) = some action →
    ∃ step, db.toolCalls.find (runId, stepId) = some step
  pending : ∀ runId execution, db.executions.find runId = some execution →
    execution.status = .pending → execution.resultJson = none ∧ execution.errorCode = none ∧
      execution.completedAt = none

theorem linked_empty : Linked Database.empty where
  steps runId stepId step hfind := by cases hfind
  actions runId stepId action hfind := by cases hfind
  pending runId execution hfind := by cases hfind

theorem Linked.of_tables {db after : Database} (hlinked : Linked db)
    (hexecutions : after.executions = db.executions) (hsteps : after.toolCalls = db.toolCalls)
    (hactions : after.externalActions = db.externalActions) : Linked after where
  steps := by rw [hexecutions, hsteps]; exact hlinked.steps
  actions := by rw [hsteps, hactions]; exact hlinked.actions
  pending := by rw [hexecutions]; exact hlinked.pending

/-- An execution gets a row that is pending without a result, or not pending. -/
theorem Linked.execution {db after : Database} {runId : String} {row : ExecutionRow}
    (hlinked : Linked db)
    (hrow : row.status = .pending → row.resultJson = none ∧ row.errorCode = none ∧
      row.completedAt = none)
    (hexecutions : ∀ other, after.executions.find other =
      if other = runId then some row else db.executions.find other)
    (hsteps : after.toolCalls = db.toolCalls)
    (hactions : after.externalActions = db.externalActions) : Linked after where
  steps other stepId step hfind := by
    rw [hsteps] at hfind
    obtain ⟨execution, hexecution⟩ := hlinked.steps other stepId step hfind
    rw [hexecutions]
    by_cases hsame : other = runId
    · exact ⟨row, if_pos hsame⟩
    · exact ⟨execution, by rw [if_neg hsame, hexecution]⟩
  actions := by rw [hsteps, hactions]; exact hlinked.actions
  pending other execution hfind := by
    rw [hexecutions] at hfind
    by_cases hsame : other = runId
    · rw [if_pos hsame] at hfind
      obtain rfl := Option.some.inj hfind
      exact hrow
    · rw [if_neg hsame] at hfind
      exact hlinked.pending other execution hfind

/-- A step of a present execution gets a row. -/
theorem Linked.step {db after : Database} {runId stepId : String} {row : ToolCallRow}
    {execution : ExecutionRow} (hlinked : Linked db)
    (hexecution : db.executions.find runId = some execution)
    (hexecutions : after.executions = db.executions)
    (hsteps : ∀ other, after.toolCalls.find other =
      if other = (runId, stepId) then some row else db.toolCalls.find other)
    (hactions : after.externalActions = db.externalActions) : Linked after where
  steps other otherStep step hfind := by
    rw [hexecutions]
    rw [hsteps] at hfind
    by_cases hsame : (other, otherStep) = (runId, stepId)
    · rw [(Prod.mk.inj hsame).1]
      exact ⟨execution, hexecution⟩
    · rw [if_neg hsame] at hfind
      exact hlinked.steps other otherStep step hfind
  actions other otherStep action hfind := by
    rw [hactions] at hfind
    obtain ⟨step, hstep⟩ := hlinked.actions other otherStep action hfind
    rw [hsteps]
    by_cases hsame : (other, otherStep) = (runId, stepId)
    · exact ⟨row, if_pos hsame⟩
    · exact ⟨step, by rw [if_neg hsame, hstep]⟩
  pending := by rw [hexecutions]; exact hlinked.pending

/-- An action of a present step gets a row. -/
theorem Linked.action {db after : Database} {runId stepId : String} {row : ExternalActionRow}
    {step : ToolCallRow} (hlinked : Linked db)
    (hstep : db.toolCalls.find (runId, stepId) = some step)
    (hexecutions : after.executions = db.executions) (hsteps : after.toolCalls = db.toolCalls)
    (hactions : ∀ other, after.externalActions.find other =
      if other = (runId, stepId) then some row else db.externalActions.find other) :
    Linked after where
  steps := by rw [hexecutions, hsteps]; exact hlinked.steps
  actions other otherStep action hfind := by
    rw [hsteps]
    rw [hactions] at hfind
    by_cases hsame : (other, otherStep) = (runId, stepId)
    · rw [hsame]
      exact ⟨step, hstep⟩
    · rw [if_neg hsame] at hfind
      exact hlinked.actions other otherStep action hfind
  pending := by rw [hexecutions]; exact hlinked.pending

/-- Without the execution there is no step of it. -/
theorem Linked.step_none {db : Database} {runId stepId : String} (hlinked : Linked db)
    (hnone : db.executions.find runId = none) : db.toolCalls.find (runId, stepId) = none := by
  cases hfind : db.toolCalls.find (runId, stepId) with
  | none => rfl
  | some step =>
    obtain ⟨execution, hexecution⟩ := hlinked.steps runId stepId step hfind
    rw [hnone] at hexecution
    cases hexecution

/-- Without the execution there is no action of it. -/
theorem Linked.action_none {db : Database} {runId stepId : String} (hlinked : Linked db)
    (hnone : db.executions.find runId = none) :
    db.externalActions.find (runId, stepId) = none := by
  cases hfind : db.externalActions.find (runId, stepId) with
  | none => rfl
  | some action =>
    obtain ⟨step, hstep⟩ := hlinked.actions runId stepId action hfind
    rw [hlinked.step_none hnone] at hstep
    cases hstep

/-- A rewritten row is found under its key. -/
theorem find_modify_row {κ ρ : Type} [DecidableEq κ] {table : Table κ ρ} {key : κ} {old : ρ}
    (hfind : table.find key = some old) (row : ρ) (other : κ) :
    (table.modify key fun _ ↦ row).find other =
      if other = key then some row else table.find other := by
  rw [Table.find_modify]
  by_cases hkey : other = key
  · rw [if_pos hkey, if_pos hkey, hkey, hfind]
    rfl
  · rw [if_neg hkey, if_neg hkey]

/-- Every change of the workflow ledger keeps it linked. -/
theorem Linked.change {db after : Database} {reading : Reading} {call : WorkflowCall}
    (hlinked : Linked db) (hchange : WorkflowChange db reading call after) : Linked after := by
  cases hchange with
  | same hafter => exact hafter ▸ hlinked
  | createExecution runId workflowType inputHash token hcall hnone hafter =>
    subst hafter
    exact hlinked.execution (fun _ ↦ ⟨rfl, rfl, rfl⟩)
      (fun other ↦ Table.find_insert_of_fresh _ _ other _ hnone) rfl rfl
  | startExecution runId token row hcall hfind hpending hafter =>
    subst hafter
    refine hlinked.execution (fun hstatus ↦ ?_) (find_modify_row hfind _) rfl rfl
    cases hstatus
  | finalizeExecution runId status eventType result code row hcall hfind hrunning hafter =>
    subst hafter
    refine hlinked.execution (fun hstatus ↦ ?_) (find_modify_row hfind _) rfl rfl
    have hterminal : status ≠ .pending := by
      cases call <;> cases hcall <;> decide
    exact absurd hstatus hterminal
  | reuseStep source target stepId toolName inputHash token step execution hcall hexecution
      hrunning hnone hcopied hafter =>
    subst hafter
    exact hlinked.step hexecution rfl
      (fun other ↦ Table.find_insert_of_fresh _ _ other _ hnone) rfl
  | claimFresh runId stepId toolName inputHash maxAttempts token execution hcall hexecution hnone
      hafter =>
    subst hafter
    exact hlinked.step hexecution rfl
      (fun other ↦ Table.find_insert_of_fresh _ _ other _ hnone) rfl
  | claimRetry runId stepId toolName inputHash maxAttempts token previous hcall hfind hfailed
      hbudget hafter =>
    subst hafter
    obtain ⟨execution, hexecution⟩ := hlinked.steps runId stepId previous hfind
    exact hlinked.step hexecution rfl (find_modify_row hfind _) rfl
  | finishStep runId stepId attempt token row status result code eventType outcome hcall hfind
      hheld hafter =>
    subst hafter
    obtain ⟨execution, hexecution⟩ := hlinked.steps runId stepId row hfind
    exact hlinked.step hexecution rfl (find_modify_row hfind _) rfl
  | recoverStep runId stepId token row hcall hfind hrunning hafter =>
    subst hafter
    obtain ⟨execution, hexecution⟩ := hlinked.steps runId stepId row hfind
    exact hlinked.step hexecution rfl (find_modify_row hfind _) rfl
  | prepareAction runId stepId attempt arguments token step run action hcall hrun hstep hheld hnone
      hfreshKey hfreshId haction hafter =>
    subst hafter
    exact hlinked.action hstep rfl rfl
      (fun other ↦ Table.find_insert_of_fresh _ _ other _ hnone)
  | beginDispatch runId stepId attempt token action step run hcall hfind hprepared hrun hrunning
      hflag hstep hheld hafter =>
    subst hafter
    exact hlinked.action hstep rfl rfl (find_modify_row hfind _)
  | retryDispatch runId stepId previous attempt token action step hcall hfind hdispatching hmode
      hprevious hstep hheld hafter =>
    subst hafter
    exact hlinked.action hstep rfl rfl (find_modify_row hfind _)
  | settle settlement outcome action step hcall hchecked hfind hdispatching htoken hstep hheld
      hafter =>
    subst hafter
    obtain ⟨execution, hexecution⟩ := hlinked.steps _ _ step hstep
    have haction : Linked (updateAction db settlement.runId settlement.stepId
        fun _ ↦ finalizedAction action outcome (reading.utcNow 0)) :=
      hlinked.action hstep rfl rfl (find_modify_row hfind _)
    exact haction.step hexecution rfl (find_modify_row hstep _) rfl
  | appendEvent runId eventType payload token execution hcall hexecution hafter =>
    subst hafter
    exact hlinked.of_tables rfl rfl rfl

theorem Linked.apply {hasher : Hasher} {db : Database} {request : Request} (hlinked : Linked db) :
    Linked (request.apply hasher db) := by
  rcases ledger_of_apply hasher db request with hsame | ⟨call, -, hchange⟩
  · exact hlinked.of_tables hsame.1 hsame.2.1 hsame.2.2.1
  · exact hlinked.change hchange

/-- Every reachable ledger is linked. -/
theorem linked_run (hasher : Hasher) (history : List Request) :
    Linked ((storeMachine hasher).run Database.empty history) :=
  (storeMachine hasher).invariant_run Linked (fun _ _ hlinked _ ↦ hlinked.apply) linked_empty
    ((storeMachine hasher).admits_true _ _)

/-! ### Requests that both stores can carry out -/

/-- An operation of the workflow store together with what it reads from outside the database. -/
structure WorkflowRequest where
  reading : Reading
  operation : WorkflowOperation

/-- The texts of an action's identity that become columns. -/
def identityTexts (identity : ExternalActionIdentity) : List String :=
  [identity.tenantId, identity.subjectId, identity.workflowType, identity.toolName,
    identity.providerName, identity.providerIdentity, identity.inputHash, identity.idempotencyKey]

/-- The texts that a call of the workflow store sends to the database. -/
def ledgerTexts : WorkflowCall → List String
  | .createOrGetExecution runId workflowType inputHash _ => [runId, workflowType, inputHash]
  | .getExecution runId => [runId]
  | .markRunning runId _ => [runId]
  | .finalizeReady runId _ _ => [runId]
  | .finalizeBlocked runId _ code _ => [runId, code]
  | .finalizeFailed runId code _ => [runId, code]
  | .reuseCompletedStep source target stepId toolName inputHash _ =>
    [source, target, stepId, toolName, inputHash]
  | .claimStep runId stepId toolName inputHash _ _ => [runId, stepId, toolName, inputHash]
  | .completeStep runId stepId attempt _ _ => [runId, stepId, attempt]
  | .failStep runId stepId attempt code _ => [runId, stepId, attempt, code]
  | .recoverInterruptedStep runId stepId _ => [runId, stepId]
  | .getStep runId stepId => [runId, stepId]
  | .listSteps runId => [runId]
  | .prepareExternalAction runId stepId _ identity _ => [runId, stepId] ++ identityTexts identity
  | .beginExternalActionDispatch runId stepId _ _ => [runId, stepId]
  | .retryExternalActionDispatch runId stepId _ _ _ => [runId, stepId]
  | .finalizeExternalActionSucceeded runId stepId _ _ _ reference code =>
    [runId, stepId, reference] ++ code.toList
  | .finalizeExternalActionFailed runId stepId _ _ code reference =>
    [runId, stepId, code] ++ reference.toList
  | .finalizeExternalActionOutcomeUnknown runId stepId _ _ code reference =>
    [runId, stepId, code] ++ reference.toList
  | .finalizeExternalActionReconciliationUnknown runId stepId _ _ code reference _ =>
    [runId, stepId, code] ++ reference.toList
  | .finalizeUnsafeInterruptedAction runId stepId _ _ code _ => [runId, stepId, code]
  | .getExternalAction runId stepId => [runId, stepId]
  | .listExternalActions runId => [runId]
  | .hasExternalActionRequiringReconciliation runId => [runId]
  | .appendEvent runId eventType _ _ => [runId, eventType]
  | .listEvents runId _ => [runId]

/-- The texts that an operation sends to the database. -/
def operationTexts : WorkflowOperation → List String
  | .ledger call => ledgerTexts call
  | .readRunSnapshot runId _ => [runId]

/-- The clock texts and the random texts that one transaction can store. -/
def workflowReadingTexts (reading : Reading) : List String :=
  [reading.utcNow 0, reading.utcNow 1, reading.utcNow 2, reading.uuid 0, reading.uuid 1]

/-- The Run in whose log the call notes its events, if it notes any. -/
def notedRun : WorkflowCall → Option String
  | .markRunning runId _ | .finalizeReady runId _ _ | .finalizeBlocked runId _ _ _
  | .finalizeFailed runId _ _ | .reuseCompletedStep _ runId _ _ _ _
  | .claimStep runId _ _ _ _ _ | .completeStep runId _ _ _ _ | .failStep runId _ _ _ _
  | .recoverInterruptedStep runId _ _ | .prepareExternalAction runId _ _ _ _
  | .beginExternalActionDispatch runId _ _ _ | .retryExternalActionDispatch runId _ _ _ _
  | .finalizeExternalActionSucceeded runId _ _ _ _ _ _
  | .finalizeExternalActionFailed runId _ _ _ _ _
  | .finalizeExternalActionOutcomeUnknown runId _ _ _ _ _
  | .finalizeExternalActionReconciliationUnknown runId _ _ _ _ _ _
  | .finalizeUnsafeInterruptedAction runId _ _ _ _ _ | .appendEvent runId _ _ _ => some runId
  | _ => none

/-- The step or the action that the call tries once more has a next number. -/
def attemptsFit (db : Database) : WorkflowCall → Prop
  | .claimStep runId stepId _ _ _ _ => ∀ step ∈ db.toolCalls.find (runId, stepId),
    (step.attemptCount : Int) < maxInteger
  | .beginExternalActionDispatch runId stepId _ _
  | .retryExternalActionDispatch runId stepId _ _ _ =>
    ∀ action ∈ db.externalActions.find (runId, stepId), (action.dispatchCount : Int) < maxInteger
  | _ => True

instance (db : Database) (call : WorkflowCall) : Decidable (attemptsFit db call) := by
  unfold attemptsFit
  split <;> infer_instance

/-- The counters that the operation raises leave room in their `INTEGER` columns. -/
def LedgerCountersFit (db : Database) : WorkflowOperation → Prop
  | .ledger call => (∀ runId ∈ notedRun call, EventRoom 2 runId db.workflowEvents) ∧
    attemptsFit db call
  | .readRunSnapshot .. => True

instance (db : Database) (operation : WorkflowOperation) :
    Decidable (LedgerCountersFit db operation) := by
  unfold LedgerCountersFit
  split <;> infer_instance

/-- No two steps of the Run were created at one time. -/
def StepsUntied (db : Database) (runId : String) : Prop :=
  ∀ first ∈ db.toolCalls.rows, ∀ second ∈ db.toolCalls.rows, first.1.1 = runId →
    second.1.1 = runId → first.2.createdAt = second.2.createdAt → first.1 = second.1

/-- No two actions of the Run were created at one time. -/
def ActionsUntied (db : Database) (runId : String) : Prop :=
  ∀ first ∈ db.externalActions.rows, ∀ second ∈ db.externalActions.rows, first.1.1 = runId →
    second.1.1 = runId → first.2.createdAt = second.2.createdAt → first.1 = second.1

instance (db : Database) (runId : String) : Decidable (StepsUntied db runId) := by
  unfold StepsUntied
  infer_instance

instance (db : Database) (runId : String) : Decidable (ActionsUntied db runId) := by
  unfold ActionsUntied
  infer_instance

/-- What an operation lists has one order. -/
def listsUntied (db : Database) : WorkflowOperation → Prop
  | .ledger (.listSteps runId) => StepsUntied db runId
  | .ledger (.listExternalActions runId) => ActionsUntied db runId
  | .readRunSnapshot runId _ => StepsUntied db runId ∧ ActionsUntied db runId
  | _ => True

instance (db : Database) (operation : WorkflowOperation) :
    Decidable (listsUntied db operation) := by
  unfold listsUntied
  split <;> infer_instance

/-- The id drawn for a new action is fresh. -/
def actionIdFresh (db : Database) (reading : Reading) : WorkflowOperation → Prop
  | .ledger (.prepareExternalAction ..) =>
    ∀ entry ∈ db.externalActions.rows, entry.2.actionId ≠ "action_" ++ reading.uuid 0
  | _ => True

instance (db : Database) (reading : Reading) (operation : WorkflowOperation) :
    Decidable (actionIdFresh db reading operation) := by
  unfold actionIdFresh
  split <;> infer_instance

/-- The second store can carry the request out as the first one does. -/
def PortableWorkflow (db : Database) (request : WorkflowRequest) : Prop :=
  Clean (operationTexts request.operation) ∧ Clean (workflowReadingTexts request.reading) ∧
    LedgerCountersFit db request.operation ∧ listsUntied db request.operation ∧
    actionIdFresh db request.reading request.operation

instance (db : Database) (request : WorkflowRequest) :
    Decidable (PortableWorkflow db request) := by
  unfold PortableWorkflow
  infer_instance

/-! ### Fences and events -/

section Ledger

variable {db : Database} {reading : Reading}

theorem clean_time {index : Nat} (hreading : Clean (workflowReadingTexts reading))
    (hindex : index < 3) : hasNul (reading.utcNow index) = false := by
  have hcases : index = 0 ∨ index = 1 ∨ index = 2 := by omega
  refine hreading _ ?_
  rcases hcases with rfl | rfl | rfl <;> simp [workflowReadingTexts]

/-- A random id behind a plain mark. -/
theorem clean_marked {index : Nat} {mark : String}
    (hreading : Clean (workflowReadingTexts reading)) (hindex : index < 2)
    (hmark : hasNul mark = false) : hasNul (mark ++ reading.uuid index) = false := by
  have hcases : index = 0 ∨ index = 1 := by omega
  have huuid : hasNul (reading.uuid index) = false := by
    refine hreading _ ?_
    rcases hcases with rfl | rfl <;> simp [workflowReadingTexts]
  simp only [hasNul, List.contains_eq_mem, decide_eq_false_iff_not] at huuid hmark ⊢
  rw [String.toList_append, List.mem_append, not_or]
  exact ⟨hmark, huuid⟩

theorem assertWorkflowLease_eq {nowMs : Int} {runId : String} (leaseToken : Option String)
    (hrun : hasNul runId = false) :
    assertWorkflowLease db nowMs runId leaseToken =
      lift (Store.assertWorkflowLease db nowMs runId leaseToken) := by
  have hsent : bindTexts [runId] = .ok () :=
    bindTexts_of_clean fun text hmem ↦ by rw [List.mem_singleton.mp hmem]; exact hrun
  unfold assertWorkflowLease Store.assertWorkflowLease
  rw [hsent]
  cases db.runs.find runId with
  | none => cases leaseToken <;> rfl
  | some row =>
    cases leaseToken with
    | none => rfl
    | some token =>
      change (if _ then _ else _) = lift (if _ then _ else _)
      split_ifs <;> rfl

/-- Fenced transactions agree when they agree behind the fence. -/
theorem agree_fenced {α : Type} {runId : String} {leaseToken : Option String}
    {transaction : Except StoreError (α × Database)}
    {other : Except PostgresError (α × Database)} (hrun : hasNul runId = false)
    (hagree : Agree transaction other) :
    Agree (Store.fenced db reading runId leaseToken transaction)
      (assertWorkflowLease db reading.nowMs runId leaseToken >>= fun _ ↦ other) := by
  rw [assertWorkflowLease_eq leaseToken hrun]
  unfold Store.fenced
  cases Store.assertWorkflowLease db reading.nowMs runId leaseToken with
  | error error => exact .raised _ _
  | ok _ => exact hagree

/-- An event of a present execution is appended as the first store appends it. -/
theorem appendWorkflowEvent_eq {updated : Database} {count index : Nat}
    {runId eventType : String} {execution : ExecutionRow} (payload : Payload)
    (hreading : Clean (workflowReadingTexts reading))
    (hexecution : updated.executions.find runId = some execution)
    (hroom : EventRoom (count + 1) runId updated.workflowEvents) (hcount : count < 2)
    (htype : hasNul eventType = false) (hindex : index < 3) :
    appendWorkflowEvent updated runId eventType payload (reading.utcNow index) =
      .ok (Store.appendWorkflowEvent updated runId eventType payload (reading.utcNow index)) := by
  have hsent : bindTexts [eventType, reading.utcNow index] = .ok () := by
    refine bindTexts_of_clean fun text hmem ↦ ?_
    simp only [List.mem_cons, List.not_mem_nil, or_false] at hmem
    rcases hmem with rfl | rfl
    · exact htype
    · exact clean_time hreading hindex
  have hbound : (count : Int) + 1 ≤ maxInteger := by
    unfold maxInteger
    omega
  have hnext := nextSequence_le hroom hbound
  have hcolumn : integerColumn (nextSequence updated.workflowEvents runId) = .ok () := by
    have hbounds : -maxInteger - 1 ≤ (nextSequence updated.workflowEvents runId : Int) ∧
        (nextSequence updated.workflowEvents runId : Int) ≤ maxInteger := by
      constructor
      · unfold maxInteger
        omega
      · omega
    simp only [integerColumn, if_pos hbounds]
  simp only [appendWorkflowEvent, lockExecution, hexecution, hsent, hcolumn]
  rfl

theorem EventRoom.appendWorkflowEvent {count : Nat} {runId : String}
    (hroom : EventRoom (count + 1) runId db.workflowEvents)
    (hcount : (count : Int) + 1 ≤ maxInteger) (eventType : String) (payload : Payload)
    (createdAt : String) :
    EventRoom count runId
      (Store.appendWorkflowEvent db runId eventType payload createdAt).workflowEvents := by
  intro event hmem hrun
  rcases List.mem_append.mp hmem with hold | hnew
  · have hevent := hroom event hold hrun
    push_cast at hevent
    omega
  · obtain rfl := List.mem_singleton.mp hnew
    exact nextSequence_le hroom hcount

/-- The first event of a transaction that kept the log so far. -/
theorem appendWorkflowEvent_first (updated : Database) {index : Nat}
    {runId eventType : String} {execution : ExecutionRow} (payload : Payload)
    (hreading : Clean (workflowReadingTexts reading)) (hroom : EventRoom 2 runId db.workflowEvents)
    (hevents : updated.workflowEvents = db.workflowEvents)
    (hexecution : updated.executions.find runId = some execution)
    (htype : hasNul eventType = false) (hindex : index < 3) :
    appendWorkflowEvent updated runId eventType payload (reading.utcNow index) =
      .ok (Store.appendWorkflowEvent updated runId eventType payload (reading.utcNow index)) := by
  have hsame : EventRoom (1 + 1) runId updated.workflowEvents := by
    rw [hevents]
    exact hroom
  exact appendWorkflowEvent_eq payload hreading hexecution hsame (by decide) htype hindex

/-- Texts without a NUL character are sent without effect on the answer. -/
theorem agree_bindTexts {α : Type} {texts : List String} {reply : Except StoreError α}
    {rest : Unit → Except PostgresError α} (hclean : Clean texts) (hagree : Agree reply (rest ())) :
    Agree reply (bindTexts texts >>= rest) := by
  rw [bindTexts_of_clean hclean]
  exact hagree

/-- A counter below its bound has a next value. -/
theorem integerColumn_next {count : Nat} (hbound : (count : Int) < maxInteger) :
    integerColumn ((count + 1 : Nat) : Int) = .ok () := by
  have hbounds : -maxInteger - 1 ≤ ((count + 1 : Nat) : Int) ∧
      ((count + 1 : Nat) : Int) ≤ maxInteger := by
    constructor
    · unfold maxInteger
      omega
    · omega
  simp only [integerColumn, if_pos hbounds]

/-- A transaction that ends by noting its one event. -/
theorem agree_note {α : Type} {updated : Database} {index : Nat} {runId eventType : String}
    {execution : ExecutionRow} {payload : Payload} {value : α}
    (hreading : Clean (workflowReadingTexts reading)) (hroom : EventRoom 2 runId db.workflowEvents)
    (hevents : updated.workflowEvents = db.workflowEvents)
    (hexecution : updated.executions.find runId = some execution)
    (htype : hasNul eventType = false) (hindex : index < 3) :
    Agree
      (.ok (value, Store.appendWorkflowEvent updated runId eventType payload
        (reading.utcNow index)))
      (appendWorkflowEvent updated runId eventType payload (reading.utcNow index) >>= fun noted ↦
        .ok (value, noted)) := by
  rw [appendWorkflowEvent_first updated payload hreading hroom hevents hexecution htype hindex]
  exact .returned _

/-! ### Executions -/

theorem agree_createOrGetExecution {runId workflowType inputHash : String}
    (leaseToken : Option String) (hclean : Clean [runId, workflowType, inputHash])
    (hreading : Clean (workflowReadingTexts reading)) :
    Agree (Store.createOrGetExecution db reading runId workflowType inputHash leaseToken)
      (createOrGetExecution db reading runId workflowType inputHash leaseToken) := by
  have hsent : bindTexts [workflowType, inputHash, reading.utcNow 0] = .ok () := by
    refine bindTexts_of_clean fun text hmem ↦ ?_
    simp only [List.mem_cons, List.not_mem_nil, or_false] at hmem
    rcases hmem with rfl | rfl | rfl
    · exact hclean _ (by simp)
    · exact hclean _ (by simp)
    · exact clean_time hreading (by decide)
  refine agree_fenced (hclean runId (by simp)) ?_
  cases db.executions.find runId with
  | some existing => exact .returned _
  | none =>
    simp only [hsent]
    exact .returned _

/-- A transition between two statuses, as both stores make it. -/
theorem agree_transitionExecution (runId eventType : String) (fromStatus toStatus : WorkflowStatus)
    (resultJson : Option Json) (errorCode leaseToken : Option String)
    (changed : ExecutionRow → ExecutionRow) (hclean : Clean (runId :: errorCode.toList))
    (hreading : Clean (workflowReadingTexts reading)) (hroom : EventRoom 2 runId db.workflowEvents)
    (htype : hasNul eventType = false)
    (hchanged : ∀ row, db.executions.find runId = some row → row.status = fromStatus →
      changed row =
        { row with
          status := toStatus
          resultJson := resultJson
          errorCode := errorCode
          updatedAt := reading.utcNow 0
          completedAt := if toStatus.isTerminal then some (reading.utcNow 0) else none }) :
    Agree
      (Store.fenced db reading runId leaseToken <|
        match db.executions.find runId with
        | none => .error (.keyError ("Execution not found: " ++ runId))
        | some row =>
          if row.status = fromStatus then
            .ok (changed row, Store.appendWorkflowEvent
              (updateExecution db runId fun _ ↦ changed row) runId eventType
              (if toStatus.isTerminal then [("error_code", textColumn errorCode)] else [])
              (reading.utcNow 1))
          else .ok (row, db))
      (transitionExecution db reading runId fromStatus toStatus eventType resultJson errorCode
        leaseToken) := by
  have hsent : bindTexts (errorCode.toList ++ [reading.utcNow 0]) = .ok () := by
    refine bindTexts_of_clean fun text hmem ↦ ?_
    rcases List.mem_append.mp hmem with hcode | htime
    · exact hclean text (List.mem_cons_of_mem _ hcode)
    · rw [List.mem_singleton.mp htime]
      exact clean_time hreading (by decide)
  refine agree_fenced (hclean runId List.mem_cons_self) ?_
  cases hfind : db.executions.find runId with
  | none => exact .raised _ _
  | some row =>
    simp only [hsent]
    change Agree _ (if _ then _ else _)
    by_cases hstatus : row.status = fromStatus
    · have hrow := hchanged row hfind hstatus
      have hpresent : (updateExecution db runId fun _ ↦ changed row).executions.find runId =
          some (changed row) := by
        rw [updateExecution, find_modify_row hfind, if_pos rfl]
      rw [if_pos hstatus, if_pos hstatus, ← hrow, appendWorkflowEvent_first
        (updateExecution db runId fun _ ↦ changed row) _ hreading hroom rfl hpresent htype
        (by decide)]
      exact .returned _
    · rw [if_neg hstatus, if_neg hstatus]
      exact .returned _

theorem agree_markRunning {runId : String} (leaseToken : Option String) (hlinked : Linked db)
    (hclean : Clean [runId]) (hreading : Clean (workflowReadingTexts reading))
    (hroom : EventRoom 2 runId db.workflowEvents) :
    Agree (Store.markRunning db reading runId leaseToken)
      (markRunning db reading runId leaseToken) := by
  refine agree_transitionExecution runId "workflow.started" .pending .running none none leaseToken
    (fun row ↦ startedExecution row (reading.utcNow 0)) hclean hreading hroom (by decide)
    fun row hfind hstatus ↦ ?_
  -- a pending execution has none of the columns that the second store clears
  obtain ⟨hresult, hcode, hcompleted⟩ := hlinked.pending runId row hfind hstatus
  obtain ⟨workflowType, inputHash, status, result, code, createdAt, updatedAt, completedAt⟩ := row
  simp only at hresult hcode hcompleted
  subst hresult hcode hcompleted
  rfl

theorem agree_finalizeExecution {runId eventType : String} {status : WorkflowStatus}
    {resultJson : Option Json} {errorCode : Option String} (leaseToken : Option String)
    (hclean : Clean (runId :: errorCode.toList)) (hreading : Clean (workflowReadingTexts reading))
    (hroom : EventRoom 2 runId db.workflowEvents) (htype : hasNul eventType = false)
    (hterminal : status.isTerminal = true) :
    Agree
      (Store.finalizeExecution db reading runId status resultJson errorCode eventType leaseToken)
      (transitionExecution db reading runId .running status eventType resultJson errorCode
        leaseToken) := by
  have hagree := agree_transitionExecution runId eventType .running status resultJson errorCode
    leaseToken (fun row ↦ finalizedExecution row status resultJson errorCode (reading.utcNow 0))
    hclean hreading hroom htype fun row _ _ ↦ by rw [hterminal]; rfl
  rw [hterminal] at hagree
  exact hagree

/-! ### Steps -/

theorem agree_copyStep {sourceRunId targetRunId stepId toolName inputHash : String}
    {sourceStep : ToolCallRow} {target : ExecutionRow}
    (htarget : db.executions.find targetRunId = some target)
    (hclean : Clean [toolName, inputHash]) (hreading : Clean (workflowReadingTexts reading))
    (hroom : EventRoom 2 targetRunId db.workflowEvents) :
    Agree (Store.copyStep db reading sourceRunId targetRunId stepId toolName inputHash sourceStep)
      (copyStep db reading sourceRunId targetRunId stepId toolName inputHash sourceStep) := by
  have hsent : Clean ["call_" ++ reading.uuid 0, toolName, inputHash, reading.utcNow 0] := by
    intro text hmem
    simp only [List.mem_cons, List.not_mem_nil, or_false] at hmem
    rcases hmem with rfl | rfl | rfl | rfl
    · exact clean_marked hreading (by decide) (by decide)
    · exact hclean _ (by simp)
    · exact hclean _ (by simp)
    · exact clean_time hreading (by decide)
  unfold Store.copyStep copyStep
  by_cases hreusable : sourceStep.reusable toolName inputHash = true
  · have hkept : ¬ (!sourceStep.reusable toolName inputHash) = true := by simp [hreusable]
    by_cases haction : (db.externalActions.find (sourceRunId, stepId)).isSome = true
    · have hrefused : (!sourceStep.reusable toolName inputHash ||
          (db.externalActions.find (sourceRunId, stepId)).isSome) = true := by simp [haction]
      rw [if_pos hrefused, if_neg hkept, if_pos haction]
      exact .returned _
    · have hopen : ¬ (!sourceStep.reusable toolName inputHash ||
          (db.externalActions.find (sourceRunId, stepId)).isSome) = true := by
        simp [hreusable, haction]
      rw [if_neg hopen, if_neg hkept, if_neg haction]
      cases db.toolCalls.find (targetRunId, stepId) with
      | some targetStep =>
        change Agree (if _ then _ else _) (if _ then _ else _)
        split_ifs <;> exact .returned _
      | none =>
        refine agree_bindTexts hsent ?_
        change Agree (if _ then _ else _) (if _ then _ else _)
        split_ifs
        · exact .raised _ _
        · exact agree_note hreading hroom rfl htarget (by decide) (by decide)
  · have hrefused : (!sourceStep.reusable toolName inputHash ||
        (db.externalActions.find (sourceRunId, stepId)).isSome) = true := by simp [hreusable]
    have hunfit : (!sourceStep.reusable toolName inputHash) = true := by simp [hreusable]
    rw [if_pos hrefused, if_pos hunfit]
    exact .returned _

theorem agree_reuseCompletedStep {sourceRunId targetRunId stepId toolName inputHash : String}
    (leaseToken : Option String)
    (hclean : Clean [sourceRunId, targetRunId, stepId, toolName, inputHash])
    (hreading : Clean (workflowReadingTexts reading))
    (hroom : EventRoom 2 targetRunId db.workflowEvents) :
    Agree
      (Store.reuseCompletedStep db reading sourceRunId targetRunId stepId toolName inputHash
        leaseToken)
      (reuseCompletedStep db reading sourceRunId targetRunId stepId toolName inputHash
        leaseToken) := by
  have hsource : bindTexts [sourceRunId] = .ok () := bindTexts_of_clean (hclean.subset (by simp))
  have hstep : bindTexts [stepId] = .ok () := bindTexts_of_clean (hclean.subset (by simp))
  unfold Store.reuseCompletedStep reuseCompletedStep
  by_cases hsame : sourceRunId = targetRunId
  · rw [if_pos hsame, if_pos hsame]
    exact .raised _ _
  rw [if_neg hsame, if_neg hsame]
  refine agree_fenced (hclean targetRunId (by simp)) ?_
  unfold Store.reuseFenced
  rw [hsource]
  cases db.executions.find sourceRunId with
  | none => exact .raised _ _
  | some source =>
    cases htarget : db.executions.find targetRunId with
    | none => exact .raised _ _
    | some target =>
      change Agree (if _ then _ else _) (if _ then _ else _)
      split_ifs
      · exact .raised _ _
      · exact .raised _ _
      · exact .raised _ _
      · rw [hstep]
        cases db.toolCalls.find (sourceRunId, stepId) with
        | none => exact .returned _
        | some sourceStep =>
          exact agree_copyStep htarget (hclean.subset (by simp)) hreading hroom

theorem agree_claimFresh {runId stepId toolName inputHash : String} {execution : ExecutionRow}
    (hexecution : db.executions.find runId = some execution) (hclean : Clean [toolName, inputHash])
    (hreading : Clean (workflowReadingTexts reading))
    (hroom : EventRoom 2 runId db.workflowEvents) :
    Agree (Store.claimFresh db reading runId stepId toolName inputHash)
      (claimFresh db reading runId stepId toolName inputHash) := by
  have hsent : Clean ["call_" ++ reading.uuid 1, toolName, inputHash,
      "attempt_" ++ reading.uuid 0, reading.utcNow 0] := by
    intro text hmem
    simp only [List.mem_cons, List.not_mem_nil, or_false] at hmem
    rcases hmem with rfl | rfl | rfl | rfl | rfl
    · exact clean_marked hreading (by decide) (by decide)
    · exact hclean _ (by simp)
    · exact hclean _ (by simp)
    · exact clean_marked hreading (by decide) (by decide)
    · exact clean_time hreading (by decide)
  unfold Store.claimFresh claimFresh
  refine agree_bindTexts hsent ?_
  change Agree (if _ then _ else _) (if _ then _ else _)
  split_ifs
  · exact .raised _ _
  · exact agree_note hreading hroom rfl hexecution (by decide) (by decide)

theorem agree_claimRetry {runId stepId toolName : String} {previous : ToolCallRow}
    {execution : ExecutionRow} (hexecution : db.executions.find runId = some execution)
    (hreading : Clean (workflowReadingTexts reading))
    (hroom : EventRoom 2 runId db.workflowEvents)
    (hbound : (previous.attemptCount : Int) < maxInteger) :
    Agree (Store.claimRetry db reading runId stepId toolName previous)
      (claimRetry db reading runId stepId toolName previous) := by
  have hsent : Clean ["attempt_" ++ reading.uuid 0, reading.utcNow 0] := by
    intro text hmem
    simp only [List.mem_cons, List.not_mem_nil, or_false] at hmem
    rcases hmem with rfl | rfl
    · exact clean_marked hreading (by decide) (by decide)
    · exact clean_time hreading (by decide)
  unfold Store.claimRetry claimRetry
  refine agree_bindTexts hsent ?_
  change Agree (if _ then _ else _) (if _ then _ else _)
  split_ifs
  · exact .returned _
  · change Agree _ (integerColumn ((previous.attemptCount + 1 : Nat) : Int) >>= _)
    rw [integerColumn_next hbound]
    exact agree_note hreading hroom rfl hexecution (by decide) (by decide)

theorem agree_claimStep {runId stepId toolName inputHash : String} (maxAttempts : Nat)
    (leaseToken : Option String) (hclean : Clean [runId, stepId, toolName, inputHash])
    (hreading : Clean (workflowReadingTexts reading))
    (hroom : EventRoom 2 runId db.workflowEvents)
    (hbound : ∀ step ∈ db.toolCalls.find (runId, stepId),
      (step.attemptCount : Int) < maxInteger) :
    Agree (Store.claimStep db reading runId stepId toolName inputHash maxAttempts leaseToken)
      (claimStep db reading runId stepId toolName inputHash maxAttempts leaseToken) := by
  have hstep : bindTexts [stepId] = .ok () := bindTexts_of_clean (hclean.subset (by simp))
  unfold Store.claimStep claimStep
  by_cases hattempts : maxAttempts < 1
  · rw [if_pos hattempts, if_pos hattempts]
    exact .raised _ _
  rw [if_neg hattempts, if_neg hattempts]
  refine agree_fenced (hclean runId (by simp)) ?_
  unfold lockExecution
  cases hexecution : db.executions.find runId with
  | none => exact .raised _ _
  | some execution =>
    simp only [hstep]
    cases hfind : db.toolCalls.find (runId, stepId) with
    | none => exact agree_claimFresh hexecution (hclean.subset (by simp)) hreading hroom
    | some record =>
      change Agree (if _ then _ else _) (if _ then _ else _)
      split_ifs
      · exact .returned _
      · exact .returned _
      · exact .returned _
      · exact .returned _
      · exact .returned _
      · exact agree_claimRetry hexecution hreading hroom (hbound record hfind)

/-- Both stores look a step up behind the fence; the second one asks for the execution first, which
a linked ledger has whenever it has the step. -/
theorem agree_finalizeStep {runId stepId attemptToken eventType outcome : String}
    {status : ToolCallStatus} {resultJson : Option Json} {errorCode : Option String}
    (leaseToken : Option String) (hlinked : Linked db)
    (hclean : Clean ([runId, stepId, attemptToken] ++ errorCode.toList))
    (hreading : Clean (workflowReadingTexts reading)) (hroom : EventRoom 2 runId db.workflowEvents)
    (htype : hasNul eventType = false) :
    Agree
      (Store.finalizeStep db reading runId stepId attemptToken status resultJson errorCode
        eventType outcome leaseToken)
      (finalizeStep db reading runId stepId attemptToken status resultJson errorCode eventType
        outcome leaseToken) := by
  have hsent : Clean (errorCode.toList ++ [reading.utcNow 0, stepId, attemptToken]) := by
    intro text hmem
    simp only [List.mem_append, List.mem_cons, List.not_mem_nil, or_false] at hmem
    rcases hmem with hcode | rfl | rfl | rfl
    · exact hclean text (List.mem_append_right _ hcode)
    · exact clean_time hreading (by decide)
    · exact hclean _ (by simp)
    · exact hclean _ (by simp)
  refine agree_fenced (hclean runId (by simp)) ?_
  unfold lockExecution
  cases hexecution : db.executions.find runId with
  | none =>
    have hmissing : db.toolCalls.find (runId, stepId) = none := hlinked.step_none hexecution
    rw [hmissing]
    exact .raised _ _
  | some execution =>
    refine agree_bindTexts hsent ?_
    cases (db.toolCalls.find (runId, stepId)).filter fun row ↦ row.heldBy attemptToken with
    | none => exact .raised _ _
    | some row => exact agree_note hreading hroom rfl hexecution htype (by decide)

theorem agree_recoverInterruptedStep {runId stepId : String} (leaseToken : Option String)
    (hlinked : Linked db) (hclean : Clean [runId, stepId])
    (hreading : Clean (workflowReadingTexts reading))
    (hroom : EventRoom 2 runId db.workflowEvents) :
    Agree (Store.recoverInterruptedStep db reading runId stepId leaseToken)
      (recoverInterruptedStep db reading runId stepId leaseToken) := by
  have hsent : Clean [reading.utcNow 0, stepId] := by
    intro text hmem
    simp only [List.mem_cons, List.not_mem_nil, or_false] at hmem
    rcases hmem with rfl | rfl
    · exact clean_time hreading (by decide)
    · exact hclean _ (by simp)
  refine agree_fenced (hclean runId (by simp)) ?_
  unfold lockExecution
  cases hexecution : db.executions.find runId with
  | none =>
    rw [hlinked.step_none hexecution]
    exact .raised _ _
  | some execution =>
    refine agree_bindTexts hsent ?_
    cases db.toolCalls.find (runId, stepId) with
    | none => exact .raised _ _
    | some row =>
      change Agree (if _ then _ else _) (if _ then _ else _)
      split_ifs
      · exact agree_note hreading hroom rfl hexecution (by decide) (by decide)
      · exact .returned _

/-! ### External actions -/

theorem agree_insertPrepared {runId stepId : String} {identity : ExternalActionIdentity}
    {execution : ExecutionRow} (hexecution : db.executions.find runId = some execution)
    (hclean : Clean (identityTexts identity)) (hreading : Clean (workflowReadingTexts reading))
    (hroom : EventRoom 2 runId db.workflowEvents)
    (hfresh : ∀ entry ∈ db.externalActions.rows, entry.2.actionId ≠ "action_" ++ reading.uuid 0) :
    Agree (Store.insertPrepared db reading runId stepId identity)
      (insertPrepared db reading runId stepId identity) := by
  have hkey : Clean [identity.idempotencyKey] := hclean.subset (by simp [identityTexts])
  have hsent : Clean ["action_" ++ reading.uuid 0, identity.tenantId, identity.subjectId,
      identity.workflowType, identity.toolName, identity.providerName, identity.providerIdentity,
      identity.inputHash, reading.utcNow 0] := by
    intro text hmem
    simp only [List.mem_cons, List.not_mem_nil, or_false] at hmem
    rcases hmem with rfl | rfl | rfl | rfl | rfl | rfl | rfl | rfl | rfl
    case inl => exact clean_marked hreading (by decide) (by decide)
    case inr.inr.inr.inr.inr.inr.inr.inr => exact clean_time hreading (by decide)
    all_goals exact hclean _ (by simp [identityTexts])
  have huntaken : ¬ (db.externalActions.rows.any fun entry ↦ entry.2.actionId ==
      (preparedAction identity ("action_" ++ reading.uuid 0) (reading.utcNow 0)).actionId) =
        true := by
    simp only [List.any_eq_true, beq_iff_eq, not_exists, not_and]
    exact fun entry hmem ↦ hfresh entry hmem
  unfold Store.insertPrepared insertPrepared
  refine agree_bindTexts hkey ?_
  change Agree (if _ then _ else _) (if _ then _ else _)
  split_ifs
  · exact .returned _
  · refine agree_bindTexts hsent ?_
    change Agree (if _ then _ else _) (if _ then _ else _)
    rw [if_neg huntaken, if_neg huntaken]
    exact agree_note hreading hroom rfl hexecution (by decide) (by decide)

theorem agree_prepareFenced {runId stepId : String} {identity : ExternalActionIdentity}
    (toolAttemptToken : String) (hclean : Clean (stepId :: identityTexts identity))
    (hreading : Clean (workflowReadingTexts reading)) (hroom : EventRoom 2 runId db.workflowEvents)
    (hfresh : ∀ entry ∈ db.externalActions.rows, entry.2.actionId ≠ "action_" ++ reading.uuid 0) :
    Agree (Store.prepareFenced db reading runId stepId toolAttemptToken identity)
      (prepareFenced db reading runId stepId toolAttemptToken identity) := by
  have hidentity : Clean (identityTexts identity) :=
    hclean.subset fun text hmem ↦ List.mem_cons_of_mem _ hmem
  have hstep : Clean [stepId] := hclean.subset (by simp)
  unfold Store.prepareFenced prepareFenced
  cases db.runs.find runId with
  | none => exact .raised _ _
  | some run =>
    change Agree (if _ then _ else _) (if _ then _ else _)
    by_cases hauthority : (!authorityMatches run identity) = true
    · rw [if_pos hauthority, if_pos hauthority]
      exact .returned _
    rw [if_neg hauthority, if_neg hauthority]
    unfold lockExecution
    cases hexecution : db.executions.find runId with
    | none => exact .raised _ _
    | some execution =>
      refine agree_bindTexts hstep ?_
      cases db.toolCalls.find (runId, stepId) with
      | none => exact .raised _ _
      | some step =>
        change Agree (if _ then _ else _) (if _ then _ else _)
        split_ifs
        · exact .returned _
        · exact .returned _
        · cases db.externalActions.find (runId, stepId) with
          | none => exact agree_insertPrepared hexecution hidentity hreading hroom hfresh
          | some existing =>
            change Agree (if _ then _ else _) (if _ then _ else _)
            split_ifs <;> exact .returned _

theorem agree_prepareExternalAction {runId stepId : String} {arguments : ExternalActionIdentity}
    (toolAttemptToken : String) (leaseToken : Option String)
    (hclean : Clean ([runId, stepId] ++ identityTexts arguments))
    (hreading : Clean (workflowReadingTexts reading)) (hroom : EventRoom 2 runId db.workflowEvents)
    (hfresh : ∀ entry ∈ db.externalActions.rows, entry.2.actionId ≠ "action_" ++ reading.uuid 0) :
    Agree
      (Store.prepareExternalAction db reading runId stepId toolAttemptToken arguments leaseToken)
      (prepareExternalAction db reading runId stepId toolAttemptToken arguments leaseToken) := by
  unfold Store.prepareExternalAction prepareExternalAction
  cases arguments.argumentsJson with
  | obj fields =>
    change Agree (if _ then _ else _) (if _ then _ else _)
    split_ifs
    · exact .raised _ _
    · refine agree_fenced (hclean runId (by simp)) ?_
      exact agree_prepareFenced toolAttemptToken
        (hclean.subset fun text hmem ↦ List.mem_cons_of_mem _ hmem) hreading hroom hfresh
  | null => exact .raised _ _
  | bool value => exact .raised _ _
  | int value => exact .raised _ _
  | number value => exact .raised _ _
  | str value => exact .raised _ _
  | arr values => exact .raised _ _

/-- The second store finds the action behind the lock of its execution; a linked ledger without the
execution has no action either. -/
theorem agree_lockedAction {α : Type} {runId stepId : String} {error : StoreError}
    {transaction : ExternalActionRow → Except StoreError α}
    {other : ExternalActionRow → Except PostgresError α} (hlinked : Linked db)
    (hstep : hasNul stepId = false)
    (hagree : ∀ execution action, db.executions.find runId = some execution →
      db.externalActions.find (runId, stepId) = some action →
      Agree (transaction action) (other action)) :
    Agree
      (match db.externalActions.find (runId, stepId) with
        | none => .error error
        | some action => transaction action)
      (lockExecution db runId >>= fun _ ↦ requireExternalAction db runId stepId >>= other) := by
  have hsent : bindTexts [stepId] = .ok () :=
    bindTexts_of_clean fun text hmem ↦ by rw [List.mem_singleton.mp hmem]; exact hstep
  unfold lockExecution requireExternalAction
  rw [hsent]
  cases hexecution : db.executions.find runId with
  | none =>
    rw [hlinked.action_none hexecution]
    exact .raised _ _
  | some execution =>
    cases haction : db.externalActions.find (runId, stepId) with
    | none => exact .raised _ _
    | some action => exact hagree execution action hexecution haction

/-- The dispatch that both stores commit once the attempt has been checked. -/
theorem agree_recordDispatch {runId stepId toolAttemptToken : String} {action : ExternalActionRow}
    {execution : ExecutionRow} (outcome : ExternalActionDispatchOutcome) (retry : Bool)
    (hexecution : db.executions.find runId = some execution)
    (hreading : Clean (workflowReadingTexts reading))
    (hroom : EventRoom 2 runId db.workflowEvents)
    (hbound : (action.dispatchCount : Int) < maxInteger) :
    Agree
      (match assertCurrentToolAttempt db runId stepId toolAttemptToken with
        | .error error => .error error
        | .ok _ =>
          .ok ((⟨outcome, dispatchedAction action ("dispatch_" ++ reading.uuid 0)
              (reading.utcNow 0), some ("dispatch_" ++ reading.uuid 0)⟩ :
                ExternalActionDispatchResult),
            Store.recordDispatch db reading runId stepId action retry))
      (lift (assertCurrentToolAttempt db runId stepId toolAttemptToken) >>= fun _ ↦
        recordDispatch db reading runId stepId action retry >>= fun committed ↦
          .ok ((⟨outcome, committed.1, some ("dispatch_" ++ reading.uuid 0)⟩ :
            ExternalActionDispatchResult), committed.2)) := by
  have hsent : bindTexts ["dispatch_" ++ reading.uuid 0, reading.utcNow 0] = .ok () := by
    refine bindTexts_of_clean fun text hmem ↦ ?_
    simp only [List.mem_cons, List.not_mem_nil, or_false] at hmem
    rcases hmem with rfl | rfl
    · exact clean_marked hreading (by decide) (by decide)
    · exact clean_time hreading (by decide)
  cases assertCurrentToolAttempt db runId stepId toolAttemptToken with
  | error error => exact .raised _ _
  | ok step =>
    have hcommitted : recordDispatch db reading runId stepId action retry =
        .ok (dispatchedAction action ("dispatch_" ++ reading.uuid 0) (reading.utcNow 0),
          Store.recordDispatch db reading runId stepId action retry) := by
      change (bindTexts ["dispatch_" ++ reading.uuid 0, reading.utcNow 0] >>= fun _ ↦
        integerColumn ((action.dispatchCount + 1 : Nat) : Int) >>= _) = _
      rw [hsent, integerColumn_next hbound]
      have hnoted := appendWorkflowEvent_first
        (updateAction db runId stepId fun _ ↦
          dispatchedAction action ("dispatch_" ++ reading.uuid 0) (reading.utcNow 0))
        (dispatchStartedPayload stepId
          (dispatchedAction action ("dispatch_" ++ reading.uuid 0) (reading.utcNow 0)) retry)
        hreading hroom rfl hexecution
        (show hasNul "external_action.dispatch_started" = false by decide)
        (show 1 < 3 by decide)
      change (appendWorkflowEvent _ runId "external_action.dispatch_started" _ _ >>= _) = _
      rw [hnoted]
      rfl
    change Agree _ (recordDispatch db reading runId stepId action retry >>= _)
    rw [hcommitted]
    exact .returned _

theorem agree_beginExternalActionDispatch {runId stepId : String} (toolAttemptToken : String)
    (leaseToken : Option String) (hlinked : Linked db) (hclean : Clean [runId, stepId])
    (hreading : Clean (workflowReadingTexts reading))
    (hroom : EventRoom 2 runId db.workflowEvents)
    (hdispatches : ∀ action ∈ db.externalActions.find (runId, stepId),
      (action.dispatchCount : Int) < maxInteger) :
    Agree
      (Store.beginExternalActionDispatch db reading runId stepId toolAttemptToken leaseToken)
      (beginExternalActionDispatch db reading runId stepId toolAttemptToken leaseToken) := by
  refine agree_fenced (hclean runId (by simp)) ?_
  refine agree_lockedAction hlinked (hclean stepId (by simp))
    fun execution action hexecution haction ↦ ?_
  by_cases hterminal : action.status.isTerminal = true
  · rw [if_pos hterminal, if_pos hterminal]
    exact .returned _
  rw [if_neg hterminal, if_neg hterminal]
  by_cases hdispatching : action.status = .dispatching
  · rw [if_pos hdispatching, if_pos hdispatching]
    exact .returned _
  rw [if_neg hdispatching, if_neg hdispatching]
  cases db.runs.find runId with
  | none => exact .raised _ _
  | some run =>
    change Agree (if _ then _ else _) (if _ then _ else _)
    split_ifs
    · exact .returned _
    · exact agree_recordDispatch .claimed false hexecution hreading hroom
        (hdispatches action haction)

theorem agree_retryExternalActionDispatch {runId stepId : String}
    (previousDispatchToken toolAttemptToken : String) (leaseToken : Option String)
    (hlinked : Linked db) (hclean : Clean [runId, stepId])
    (hreading : Clean (workflowReadingTexts reading))
    (hroom : EventRoom 2 runId db.workflowEvents)
    (hdispatches : ∀ action ∈ db.externalActions.find (runId, stepId),
      (action.dispatchCount : Int) < maxInteger) :
    Agree
      (Store.retryExternalActionDispatch db reading runId stepId previousDispatchToken
        toolAttemptToken leaseToken)
      (retryExternalActionDispatch db reading runId stepId previousDispatchToken toolAttemptToken
        leaseToken) := by
  refine agree_fenced (hclean runId (by simp)) ?_
  refine agree_lockedAction hlinked (hclean stepId (by simp))
    fun execution action hexecution haction ↦ ?_
  split_ifs
  · exact .returned _
  · exact .returned _
  · exact .returned _
  · exact .raised _ _
  · exact agree_recordDispatch .retryClaimed true hexecution hreading hroom
      (hdispatches action haction)

/-! ### Outcomes of external actions -/

/-- The checks of an outcome keep its texts. -/
theorem checkedOutcome_texts {outcome checked : ExternalActionOutcome}
    (hchecked : checkedOutcome outcome = .ok checked) :
    checked.providerReference = outcome.providerReference ∧
      checked.errorCode = outcome.errorCode := by
  unfold checkedOutcome at hchecked
  split_ifs at hchecked
  · split at hchecked
    · obtain rfl := Except.ok.inj hchecked
      exact ⟨rfl, rfl⟩
    · cases hchecked
  · obtain rfl := Except.ok.inj hchecked
    exact ⟨rfl, rfl⟩

theorem Clean.keys {runId stepId : String} {rest : List String}
    (hclean : Clean (runId :: stepId :: rest)) : Clean [runId, stepId] :=
  hclean.subset (by simp)

theorem Clean.outcome {runId stepId : String} {rest : List String}
    (hclean : Clean (runId :: stepId :: rest)) : Clean rest :=
  hclean.subset fun _ hmem ↦ List.mem_cons_of_mem _ (List.mem_cons_of_mem _ hmem)

theorem Clean.rotate {code : String} {rest : List String} (hclean : Clean (code :: rest)) :
    Clean (rest ++ [code]) :=
  hclean.subset fun text hmem ↦ by
    rcases List.mem_append.mp hmem with hrest | hcode
    · exact List.mem_cons_of_mem _ hrest
    · rw [List.mem_singleton.mp hcode]
      exact List.mem_cons_self

/-- The names of the outcome events hold no NUL character. -/
theorem clean_outcomeEvent (status : ExternalActionStatus) :
    hasNul ("external_action." ++ status.text) = false := by
  cases status <;> decide

theorem clean_stepEvent (completed : Bool) :
    hasNul (if completed then "step.completed" else "step.failed") = false := by
  cases completed <;> decide

/-- Both stores commit an outcome as the action, its step and two events. -/
theorem recordOutcome_eq {runId stepId : String} {action : ExternalActionRow} {step : ToolCallRow}
    {outcome : ExternalActionOutcome} {execution : ExecutionRow}
    (hexecution : db.executions.find runId = some execution)
    (hclean : Clean (outcome.providerReference.toList ++ outcome.errorCode.toList))
    (hreading : Clean (workflowReadingTexts reading))
    (hroom : EventRoom 2 runId db.workflowEvents) :
    recordOutcome db reading runId stepId action step outcome =
      .ok (Store.recordOutcome db reading runId stepId action step outcome) := by
  have hsent : bindTexts (outcome.providerReference.toList ++ outcome.errorCode.toList ++
      [reading.utcNow 0]) = .ok () := by
    refine bindTexts_of_clean fun text hmem ↦ ?_
    rcases List.mem_append.mp hmem with hold | hnew
    · exact hclean text hold
    · rw [List.mem_singleton.mp hnew]
      exact clean_time hreading (by decide)
  unfold recordOutcome
  simp only [hsent]
  have hnoted := appendWorkflowEvent_first
    (updateStep (updateAction db runId stepId fun _ ↦
      finalizedAction action outcome (reading.utcNow 0)) runId stepId fun _ ↦
        finishedStep step outcome.toolStatus outcome.resultJson outcome.errorCode
          (reading.utcNow 0))
    (outcomePayload stepId action outcome) hreading hroom rfl hexecution
    (clean_outcomeEvent outcome.actionStatus) (show 1 < 3 by decide)
  change (appendWorkflowEvent _ runId ("external_action." ++ outcome.actionStatus.text) _ _ >>=
    _) = _
  rw [hnoted]
  have hbefore : EventRoom (1 + 1) runId (updateStep (updateAction db runId stepId fun _ ↦
      finalizedAction action outcome (reading.utcNow 0)) runId stepId fun _ ↦
        finishedStep step outcome.toolStatus outcome.resultJson outcome.errorCode
          (reading.utcNow 0)).workflowEvents := hroom
  have hbound : ((1 : Nat) : Int) + 1 ≤ maxInteger := by
    unfold maxInteger
    omega
  have hmore : EventRoom (0 + 1) runId _ := hbefore.appendWorkflowEvent hbound
    ("external_action." ++ outcome.actionStatus.text) (outcomePayload stepId action outcome)
    (reading.utcNow 1)
  exact appendWorkflowEvent_eq _ hreading hexecution hmore (by decide) (clean_stepEvent _)
    (by decide)

/-- The second store reads the step before the status of its action; in a linked ledger the step is
there. -/
theorem agree_finalizeDispatched {runId stepId : String} {outcome : ExternalActionOutcome}
    (dispatchToken toolAttemptToken : String) (requiredRetryMode : Option ExternalActionRetryMode)
    (hlinked : Linked db) (hkeys : Clean [runId, stepId])
    (hclean : Clean (outcome.providerReference.toList ++ outcome.errorCode.toList))
    (hreading : Clean (workflowReadingTexts reading))
    (hroom : EventRoom 2 runId db.workflowEvents) :
    Agree
      (Store.finalizeDispatched db reading runId stepId dispatchToken toolAttemptToken outcome
        requiredRetryMode)
      (finalizeDispatched db reading runId stepId dispatchToken toolAttemptToken outcome
        requiredRetryMode) := by
  refine agree_bindTexts (hkeys.subset (by simp)) ?_
  refine agree_lockedAction hlinked (hkeys stepId (by simp))
    fun execution action hexecution haction ↦ ?_
  obtain ⟨step, hstep⟩ := hlinked.actions runId stepId action haction
  rw [hstep]
  by_cases hmode : (requiredRetryMode.isSome && requiredRetryMode != some action.retryMode) = true
  · rw [if_pos hmode, if_pos hmode]
    exact .raised _ _
  rw [if_neg hmode, if_neg hmode]
  change Agree (if _ then (if _ then _ else _) else _) (if _ then (if _ then _ else _) else _)
  split_ifs with hterminal hduplicate hstale hheld
  · exact .returned _
  · exact .raised _ _
  · exact .raised _ _
  · have hrefused : ¬ step.heldBy toolAttemptToken = true := by simpa using hheld
    simp only [assertCurrentToolAttempt, hstep, if_neg hrefused]
    exact .raised _ _
  · have hcurrent : step.heldBy toolAttemptToken = true := by simpa using hheld
    simp only [assertCurrentToolAttempt, hstep, if_pos hcurrent]
    rw [recordOutcome_eq hexecution hclean hreading hroom]
    exact .returned _

theorem agree_finalizeProviderOutcome {runId stepId : String} {outcome : ExternalActionOutcome}
    (dispatchToken toolAttemptToken : String) (hlinked : Linked db)
    (hkeys : Clean [runId, stepId])
    (hclean : Clean (outcome.providerReference.toList ++ outcome.errorCode.toList))
    (hreading : Clean (workflowReadingTexts reading))
    (hroom : EventRoom 2 runId db.workflowEvents) :
    Agree
      (Store.finalizeProviderOutcome db reading runId stepId dispatchToken toolAttemptToken outcome)
      (finalizeProviderOutcome db reading runId stepId dispatchToken toolAttemptToken outcome) := by
  unfold Store.finalizeProviderOutcome finalizeProviderOutcome
  cases hchecked : checkedOutcome outcome with
  | error error => exact .raised _ _
  | ok checked =>
    obtain ⟨hreference, hcode⟩ := checkedOutcome_texts hchecked
    rw [← hreference, ← hcode] at hclean
    exact agree_finalizeDispatched dispatchToken toolAttemptToken none hlinked hkeys hclean hreading
      hroom

theorem agree_finalizeAttemptOutcome {runId stepId : String} {outcome : ExternalActionOutcome}
    (dispatchToken toolAttemptToken : String) (requiredRetryMode : Option ExternalActionRetryMode)
    (leaseToken : Option String) (hlinked : Linked db) (hkeys : Clean [runId, stepId])
    (hclean : Clean (outcome.providerReference.toList ++ outcome.errorCode.toList))
    (hreading : Clean (workflowReadingTexts reading))
    (hroom : EventRoom 2 runId db.workflowEvents) :
    Agree
      (Store.finalizeAttemptOutcome db reading runId stepId dispatchToken toolAttemptToken outcome
        requiredRetryMode leaseToken)
      (finalizeAttemptOutcome db reading runId stepId dispatchToken toolAttemptToken outcome
        requiredRetryMode leaseToken) := by
  unfold Store.finalizeAttemptOutcome finalizeAttemptOutcome
  cases hchecked : checkedOutcome outcome with
  | error error => exact .raised _ _
  | ok checked =>
    obtain ⟨hreference, hcode⟩ := checkedOutcome_texts hchecked
    rw [← hreference, ← hcode] at hclean
    exact agree_fenced (hkeys runId (by simp)) (agree_finalizeDispatched dispatchToken
      toolAttemptToken requiredRetryMode hlinked hkeys hclean hreading hroom)

/-! ### Events and lists -/

theorem agree_appendEvent {runId eventType : String} (payload : Payload)
    (leaseToken : Option String) (hclean : Clean [runId, eventType])
    (hreading : Clean (workflowReadingTexts reading))
    (hroom : EventRoom 2 runId db.workflowEvents) :
    Agree (Store.appendEvent db reading runId eventType payload leaseToken)
      (appendEvent db reading runId eventType payload leaseToken) := by
  refine agree_fenced (hclean runId (by simp)) ?_
  cases hexecution : db.executions.find runId with
  | none =>
    simp only [appendWorkflowEvent, lockExecution, hexecution]
    exact .raised _ _
  | some execution =>
    exact agree_note hreading hroom rfl hexecution (hclean eventType (by simp)) (by decide)

/-- Sorting by a key and sorting by the key and a second one give the same list when no two
elements share the key. -/
theorem insertionSort_eq_of_untied {α : Type} (time mark : α → String) {rows : List α}
    (huntied : ∀ left ∈ rows, ∀ right ∈ rows, time left = time right → left = right) :
    rows.insertionSort (fun left right ↦ time left ≤ time right) =
      rows.insertionSort fun left right ↦
        toLex (time left, mark left) ≤ toLex (time right, mark right) := by
  have horders : ∀ left ∈ rows, ∀ right ∈ rows, time left ≤ time right ↔
      toLex (time left, mark left) ≤ toLex (time right, mark right) := by
    intro left hleft right hright
    rw [Prod.Lex.toLex_le_toLex]
    constructor
    · intro hle
      rcases lt_or_eq_of_le hle with hlt | heq
      · exact .inl hlt
      · rw [huntied left hleft right hright heq]
        exact .inr ⟨rfl, le_rfl⟩
    · rintro (hlt | ⟨heq, -⟩)
      · exact hlt.le
      · exact heq.le
  have hsorted := List.map_insertionSort (fun left right ↦ time left ≤ time right)
    (fun left right ↦ toLex (time left, mark left) ≤ toLex (time right, mark right)) id rows horders
  rwa [List.map_id, List.map_id] at hsorted

/-- The rows of one Run in a table keyed by Run and step. -/
theorem runRows_untied {ρ : Type} {table : Table (String × String) ρ} {runId : String}
    (time : ρ → String)
    (huntied : ∀ first ∈ table.rows, ∀ second ∈ table.rows, first.1.1 = runId →
      second.1.1 = runId → time first.2 = time second.2 → first.1 = second.1) :
    ∀ left ∈ (table.rows.filter fun entry ↦ entry.1.1 == runId).map
        fun entry ↦ (entry.1.2, entry.2),
      ∀ right ∈ (table.rows.filter fun entry ↦ entry.1.1 == runId).map
          fun entry ↦ (entry.1.2, entry.2),
        time left.2 = time right.2 → left = right := by
  intro left hleft right hright htime
  obtain ⟨first, hfirst, rfl⟩ := List.mem_map.mp hleft
  obtain ⟨second, hsecond, rfl⟩ := List.mem_map.mp hright
  obtain ⟨hfirstRow, hfirstRun⟩ := List.mem_filter.mp hfirst
  obtain ⟨hsecondRow, hsecondRun⟩ := List.mem_filter.mp hsecond
  have hkey := huntied first hfirstRow second hsecondRow (by simpa using hfirstRun)
    (by simpa using hsecondRun) htime
  obtain ⟨firstKey, firstRow⟩ := first
  obtain ⟨secondKey, secondRow⟩ := second
  simp only at hkey
  subst hkey
  have hsame : some firstRow = some secondRow := by
    rw [← (Table.mem_rows_iff table _ _).mp hfirstRow, ← (Table.mem_rows_iff table _ _).mp
      hsecondRow]
  rw [Option.some.inj hsame]

theorem listSteps_eq {runId : String} (huntied : StepsUntied db runId) :
    listSteps db runId = Store.listSteps db runId :=
  (insertionSort_eq_of_untied (fun entry : String × ToolCallRow ↦ entry.2.createdAt)
    (fun entry ↦ entry.2.callId) (runRows_untied ToolCallRow.createdAt huntied)).symm

theorem listExternalActions_eq {runId : String} (huntied : ActionsUntied db runId) :
    listExternalActions db runId = Store.listExternalActions db runId :=
  (insertionSort_eq_of_untied (fun entry : String × ExternalActionRow ↦ entry.2.createdAt)
    (fun entry ↦ entry.2.actionId) (runRows_untied ExternalActionRow.createdAt huntied)).symm

theorem readRunSnapshot_eq {runId : String} (afterSequence : Nat)
    (hsteps : StepsUntied db runId) (hactions : ActionsUntied db runId) :
    readRunSnapshot db runId afterSequence = Store.readRunSnapshot db runId afterSequence := by
  unfold readRunSnapshot Store.readRunSnapshot
  rw [listSteps_eq hsteps, listExternalActions_eq hactions]

end Ledger

/-! ### The two machines -/

/-- Every portable call gets the same answer from both stores over a linked ledger. -/
theorem agree_performWorkflowCall {db : Database} {reading : Reading} {call : WorkflowCall}
    (hlinked : Linked db) (hportable : PortableWorkflow db ⟨reading, .ledger call⟩) :
    Agree (call.perform db reading) (performWorkflowCall db reading call) := by
  obtain ⟨hclean, hreading, ⟨hroom, hattempts⟩, huntied, hfresh⟩ := hportable
  cases call with
  | createOrGetExecution runId workflowType inputHash token =>
    exact agree_createOrGetExecution token hclean hreading
  | getExecution runId => exact agree_of_eq_lift (reads_eq (.ok (getExecution db runId)) hclean)
  | markRunning runId token => exact agree_markRunning token hlinked hclean hreading (hroom _ rfl)
  | finalizeReady runId result token =>
    exact agree_finalizeExecution token hclean hreading (hroom _ rfl) (by decide) rfl
  | finalizeBlocked runId result code token =>
    exact agree_finalizeExecution token hclean hreading (hroom _ rfl) (by decide) rfl
  | finalizeFailed runId code token =>
    exact agree_finalizeExecution token hclean hreading (hroom _ rfl) (by decide) rfl
  | reuseCompletedStep source target stepId toolName inputHash token =>
    exact agree_reuseCompletedStep token hclean hreading (hroom _ rfl)
  | claimStep runId stepId toolName inputHash maxAttempts token =>
    exact agree_claimStep maxAttempts token hclean hreading (hroom _ rfl) hattempts
  | completeStep runId stepId attempt result token =>
    exact agree_finalizeStep token hlinked hclean hreading (hroom _ rfl) (by decide)
  | failStep runId stepId attempt code token =>
    exact agree_finalizeStep token hlinked hclean hreading (hroom _ rfl) (by decide)
  | recoverInterruptedStep runId stepId token =>
    exact agree_recoverInterruptedStep token hlinked hclean hreading (hroom _ rfl)
  | getStep runId stepId => exact agree_of_eq_lift (reads_eq (.ok (getStep db runId stepId)) hclean)
  | listSteps runId =>
    change Agree _ (reads db [runId] (.ok (listSteps db runId)))
    rw [listSteps_eq huntied]
    exact agree_of_eq_lift (reads_eq (.ok (Store.listSteps db runId)) hclean)
  | prepareExternalAction runId stepId attempt identity token =>
    exact agree_prepareExternalAction attempt token hclean hreading (hroom _ rfl) hfresh
  | beginExternalActionDispatch runId stepId attempt token =>
    exact agree_beginExternalActionDispatch attempt token hlinked hclean hreading (hroom _ rfl)
      hattempts
  | retryExternalActionDispatch runId stepId previous attempt token =>
    exact agree_retryExternalActionDispatch previous attempt token hlinked hclean hreading
      (hroom _ rfl) hattempts
  | finalizeExternalActionSucceeded runId stepId dispatch attempt result reference code =>
    have htexts : Clean (runId :: stepId :: reference :: code.toList) := hclean
    exact agree_finalizeProviderOutcome dispatch attempt hlinked htexts.keys htexts.outcome hreading
      (hroom _ rfl)
  | finalizeExternalActionFailed runId stepId dispatch attempt code reference =>
    have htexts : Clean (runId :: stepId :: code :: reference.toList) := hclean
    exact agree_finalizeProviderOutcome dispatch attempt hlinked htexts.keys htexts.outcome.rotate
      hreading (hroom _ rfl)
  | finalizeExternalActionOutcomeUnknown runId stepId dispatch attempt code reference =>
    have htexts : Clean (runId :: stepId :: code :: reference.toList) := hclean
    exact agree_finalizeProviderOutcome dispatch attempt hlinked htexts.keys htexts.outcome.rotate
      hreading (hroom _ rfl)
  | finalizeExternalActionReconciliationUnknown runId stepId dispatch attempt code reference
      token =>
    have htexts : Clean (runId :: stepId :: code :: reference.toList) := hclean
    exact agree_finalizeAttemptOutcome dispatch attempt none token hlinked htexts.keys
      htexts.outcome.rotate hreading (hroom _ rfl)
  | finalizeUnsafeInterruptedAction runId stepId dispatch attempt code token =>
    have htexts : Clean (runId :: stepId :: [code]) := hclean
    exact agree_finalizeAttemptOutcome dispatch attempt (some .unsafeRetry) token hlinked
      htexts.keys htexts.outcome hreading (hroom _ rfl)
  | getExternalAction runId stepId =>
    exact agree_of_eq_lift (reads_eq (.ok (getExternalAction db runId stepId)) hclean)
  | listExternalActions runId =>
    change Agree _ (reads db [runId] (.ok (listExternalActions db runId)))
    rw [listExternalActions_eq huntied]
    exact agree_of_eq_lift (reads_eq (.ok (Store.listExternalActions db runId)) hclean)
  | hasExternalActionRequiringReconciliation runId =>
    exact agree_of_eq_lift
      (reads_eq (.ok (hasExternalActionRequiringReconciliation db runId)) hclean)
  | appendEvent runId eventType payload token =>
    exact agree_appendEvent payload token hclean hreading (hroom _ rfl)
  | listEvents runId afterSequence =>
    exact agree_of_eq_lift (reads_eq (.ok (listEvents db runId afterSequence)) hclean)

theorem agree_performWorkflow {db : Database} {request : WorkflowRequest} (hlinked : Linked db)
    (hportable : PortableWorkflow db request) :
    Agree (request.operation.performSqlite db request.reading)
      (request.operation.performPostgres db request.reading) := by
  obtain ⟨reading, operation⟩ := request
  cases operation with
  | ledger call => exact agree_performWorkflowCall hlinked hportable
  | readRunSnapshot runId afterSequence =>
    obtain ⟨hclean, -, -, huntied, -⟩ := hportable
    change Agree _ (reads db [runId] (.ok (readRunSnapshot db runId afterSequence)))
    rw [readRunSnapshot_eq afterSequence huntied.1 huntied.2]
    exact agree_of_eq_lift (reads_eq (.ok (Store.readRunSnapshot db runId afterSequence)) hclean)

/-- The database after a request to the first store; an operation that raises is rolled back. -/
def WorkflowRequest.applySqlite (db : Database) (request : WorkflowRequest) : Database :=
  match request.operation.performSqlite db request.reading with
  | .ok (_, after) => after
  | .error _ => db

/-- The database after a request to the second store; an operation that raises is rolled back. -/
def WorkflowRequest.applyPostgres (db : Database) (request : WorkflowRequest) : Database :=
  match request.operation.performPostgres db request.reading with
  | .ok (_, after) => after
  | .error _ => db

/-- `SQLiteWorkflowStore` over given tables. -/
def sqliteWorkflowStore (start : Database) : Machine Database WorkflowRequest where
  init := start
  next := WorkflowRequest.applySqlite

/-- `PostgresWorkflowStore` over given tables. -/
def postgresWorkflowStore (start : Database) : Machine Database WorkflowRequest where
  init := start
  next := WorkflowRequest.applyPostgres

/-- Requests to the first store keep the ledger linked. -/
theorem Linked.applySqlite {db : Database} {request : WorkflowRequest} (hlinked : Linked db) :
    Linked (request.applySqlite db) := by
  obtain ⟨reading, operation⟩ := request
  cases operation with
  | ledger call =>
    -- a call of the runtime changes the tables as the machine of all stores does
    have happly : WorkflowRequest.applySqlite db ⟨reading, .ledger call⟩ =
        Request.apply sampleHasher db ⟨reading, .workflow call⟩ := by
      cases hperform : call.perform db reading with
      | error error =>
        have hrolled : WorkflowRequest.applySqlite db ⟨reading, .ledger call⟩ = db := by
          simp only [WorkflowRequest.applySqlite, WorkflowOperation.performSqlite, hperform]
        have happlied : Request.apply sampleHasher db ⟨reading, .workflow call⟩ = db :=
          apply_of_error hperform
        rw [hrolled, happlied]
      | ok value =>
        have hafter : WorkflowRequest.applySqlite db ⟨reading, .ledger call⟩ = value.2 := by
          simp only [WorkflowRequest.applySqlite, WorkflowOperation.performSqlite, hperform]
        have happlied : Request.apply sampleHasher db ⟨reading, .workflow call⟩ = value.2 :=
          apply_of_ok hperform
        rw [hafter, happlied]
    rw [happly]
    exact hlinked.apply
  | readRunSnapshot runId afterSequence => exact hlinked

/-- Agreeing replies leave the same tables. -/
theorem applyPostgres_eq_of_agree {db : Database} {request : WorkflowRequest}
    (hagree : Agree (request.operation.performSqlite db request.reading)
      (request.operation.performPostgres db request.reading)) :
    request.applyPostgres db = request.applySqlite db := by
  unfold WorkflowRequest.applyPostgres WorkflowRequest.applySqlite
  cases hsqlite : request.operation.performSqlite db request.reading with
  | error error =>
    rw [hsqlite] at hagree
    cases hpostgres : request.operation.performPostgres db request.reading with
    | error other => rfl
    | ok value =>
      rw [hpostgres] at hagree
      cases hagree
  | ok value =>
    rw [hsqlite] at hagree
    cases hpostgres : request.operation.performPostgres db request.reading with
    | error other =>
      rw [hpostgres] at hagree
      cases hagree
    | ok other =>
      rw [hpostgres] at hagree
      cases hagree
      rfl

/-- Along portable requests the two stores pass through the same tables. -/
theorem workflowRun_eq_of_portable {start db : Database} (hlinked : Linked db)
    {history : List WorkflowRequest}
    (hportable : (sqliteWorkflowStore start).Admits PortableWorkflow db history) :
    (postgresWorkflowStore start).run db history = (sqliteWorkflowStore start).run db history := by
  induction history generalizing db with
  | nil => rfl
  | cons request rest ih =>
    obtain ⟨hfirst, hrest⟩ := hportable
    have hnext : (postgresWorkflowStore start).next db request =
        (sqliteWorkflowStore start).next db request :=
      applyPostgres_eq_of_agree (agree_performWorkflow hlinked hfirst)
    rw [Machine.run_cons, Machine.run_cons, hnext]
    exact ih hlinked.applySqlite hrest

/-- A reading whose times are one text and whose second random text marks a call. -/
def claimReading (nowMs : Int) (time mark : String) : Reading :=
  ⟨nowMs, fun _ ↦ time, fun index ↦ if index = 1 then mark else time⟩

/-- A standalone ledger starts its execution and claims two steps. -/
def claimedSteps (first second : String) : List WorkflowRequest :=
  [⟨claimReading 0 "t0" "", .ledger (.createOrGetExecution "run_1" "release" "hash" none)⟩,
    ⟨claimReading 1 "t0" "", .ledger (.markRunning "run_1" none)⟩,
    ⟨claimReading 2 first "z", .ledger (.claimStep "run_1" "a" "tool" "hash" 3 none)⟩,
    ⟨claimReading 3 second "y", .ledger (.claimStep "run_1" "b" "tool" "hash" 3 none)⟩]

/-- The request that lists the steps. -/
def stepsRequest : WorkflowRequest := ⟨claimReading 4 "t3" "", .ledger (.listSteps "run_1")⟩

end AgentRuntime.Postgres
