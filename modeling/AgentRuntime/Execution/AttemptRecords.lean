import AgentRuntime.Store.LedgerOrigins
import AgentRuntime.Execution.ConductRules
import AgentRuntime.Execution.StoreRequests
import AgentRuntime.Store.Replies

/-!
# What the history of an attempt says about the ledger

What a store showed an attempt was true when it was shown, and part of it stays true: the log is
only extended, a terminal action, a COMPLETED step and an execution that ended are final. `Attests`
is that part for one deed; it is kept by every request (`Attests.mono`). The rest of a look at the
log, that it showed *all* the evidence of the Run, holds for as long as the attempt keeps its lease
and performs no operation on a store (`Current`).
-/

set_option autoImplicit false
set_option relaxedAutoImplicit false

namespace AgentRuntime.Execution

open Library Store

/-! ### The log of a Run -/

/-- The workflow log of a Run, as `list_events` shows it. -/
def workflowLog (db : Database) (runId : String) : List EventRow := Store.listEvents db runId 0

theorem workflowLog_grows {db after : Database} (hlog : db.workflowEvents <+: after.workflowEvents)
    (runId : String) : workflowLog db runId <+: workflowLog after runId :=
  hlog.filter _

theorem firstEvidence_append (events more : List EventRow) (eventType evidenceId : String) :
    firstEvidence (events ++ more) eventType evidenceId =
      (firstEvidence events eventType evidenceId).or
        (firstEvidence more eventType evidenceId) := by
  unfold firstEvidence
  rw [List.find?_append]
  cases events.find? fun event ↦
    event.eventType == eventType && isEvidence event.payload (.str evidenceId) <;> rfl

/-- The first evidence stays the first. -/
theorem firstEvidence_of_prefix {events more : List EventRow} {eventType evidenceId : String}
    {payload : Payload} (hmore : events <+: more)
    (hfirst : firstEvidence events eventType evidenceId = some payload) :
    firstEvidence more eventType evidenceId = some payload := by
  obtain ⟨rest, rfl⟩ := hmore
  rw [firstEvidence_append, hfirst]
  rfl

/-- The log of a Run holds this evidence, the first of its type and id. -/
def Recorded (db : Database) (runId eventType evidenceId : String) (payload : Payload) : Prop :=
  firstEvidence (workflowLog db runId) eventType evidenceId = some payload

theorem Recorded.mono {db after : Database} {runId eventType evidenceId : String}
    {payload : Payload} (hrecorded : Recorded db runId eventType evidenceId payload)
    (hages : Ages db after) : Recorded after runId eventType evidenceId payload :=
  firstEvidence_of_prefix (workflowLog_grows hages.log runId) hrecorded

/-- The step is COMPLETED. -/
def StepCompleted (db : Database) (runId stepId : String) : Prop :=
  ∃ row, db.toolCalls.find (runId, stepId) = some row ∧ row.status = .completed

theorem StepCompleted.mono {db after : Database} {runId stepId : String}
    (hcompleted : StepCompleted db runId stepId) (hages : Ages db after) :
    StepCompleted after runId stepId := by
  obtain ⟨row, hfind, hstatus⟩ := hcompleted
  obtain ⟨next, hnext, -, hfinal⟩ := hages.steps _ row hfind
  exact ⟨next, hnext, by rw [hfinal hstatus, hstatus]⟩

/-- The action is in a status. -/
def ActionIn (db : Database) (runId stepId : String) (status : ExternalActionStatus) : Prop :=
  ∃ row, db.externalActions.find (runId, stepId) = some row ∧ row.status = status

theorem ActionIn.mono {db after : Database} {runId stepId : String}
    {status : ExternalActionStatus} (hin : ActionIn db runId stepId status)
    (hterminal : status.isTerminal = true) (hages : Ages db after) :
    ActionIn after runId stepId status := by
  obtain ⟨row, hfind, rfl⟩ := hin
  obtain ⟨next, hnext, -, hfinal⟩ := hages.actions _ row hfind
  exact ⟨next, hnext, by rw [hfinal hterminal]⟩

theorem action_mono {db after : Database} {key : String × String}
    (hsome : (db.externalActions.find key).isSome = true) (hages : Ages db after) :
    (after.externalActions.find key).isSome = true := by
  obtain ⟨row, hfind⟩ := Option.isSome_iff_exists.mp hsome
  obtain ⟨next, hnext, -⟩ := hages.actions _ row hfind
  rw [hnext]
  rfl

/-- The execution of the Run ended with a result. -/
def ExecutionConcluded (db : Database) (runId : String) : Prop :=
  ∃ row, db.executions.find runId = some row ∧ isConcluded row.status = true

theorem isTerminal_of_isConcluded {status : WorkflowStatus}
    (hconcluded : isConcluded status = true) :
    status.isTerminal = true := by
  cases status <;> first | rfl | cases hconcluded

theorem ExecutionConcluded.mono {db after : Database} {runId : String}
    (hconcluded : ExecutionConcluded db runId) (hages : Ages db after) :
    ExecutionConcluded after runId := by
  obtain ⟨row, hfind, hstatus⟩ := hconcluded
  obtain ⟨next, hnext, hfinal⟩ := hages.executions _ row hfind
  exact ⟨next, hnext, by rw [hfinal (isTerminal_of_isConcluded hstatus), hstatus]⟩

/-! ### Decisions -/

/-- The log of a Run holds the decision of an index. -/
def DecisionRecorded (db : Database) (runId : String) (index : Nat)
    (decision : PlannerDecision) : Prop :=
  ∃ payload, Recorded db runId "planner.decision" (plannerId index) payload ∧
    recordedDecision payload = some decision

theorem DecisionRecorded.mono {db after : Database} {runId : String} {index : Nat}
    {decision : PlannerDecision} (hdecided : DecisionRecorded db runId index decision)
    (hages : Ages db after) : DecisionRecorded after runId index decision := by
  obtain ⟨payload, hrecorded, hdecision⟩ := hdecided
  exact ⟨payload, hrecorded.mono hages, hdecision⟩

/-- One decision for each index. -/
theorem DecisionRecorded.unique {db : Database} {runId : String} {index : Nat}
    {decision other : PlannerDecision} (hdecided : DecisionRecorded db runId index decision)
    (hother : DecisionRecorded db runId index other) : decision = other := by
  obtain ⟨payload, hrecorded, hdecision⟩ := hdecided
  obtain ⟨twin, htwin, hsecond⟩ := hother
  obtain rfl : payload = twin := Option.some.inj (hrecorded.symm.trans htwin)
  exact Option.some.inj (hdecision.symm.trans hsecond)

/-- Steps up to a number are completed, and the next decision calls no tool. -/
def LoopEnded (db : Database) (runId : String) : Prop :=
  ∃ count decision, (∀ index, 1 ≤ index → index ≤ count →
      StepCompleted db runId (callStepId index)) ∧
    DecisionRecorded db runId (count + 1) decision ∧ ∀ call, decision ≠ .callTool call

theorem LoopEnded.mono {db after : Database} {runId : String} (hended : LoopEnded db runId)
    (hages : Ages db after) : LoopEnded after runId := by
  obtain ⟨count, decision, hcompleted, hdecided, hcall⟩ := hended
  exact ⟨count, decision, fun index hpos hle ↦ (hcompleted index hpos hle).mono hages,
    hdecided.mono hages, hcall⟩

/-! ### Attestation -/

theorem Settles.terminal {runId stepId : String} {status : ExternalActionStatus} {deed : Deed}
    (hsettles : Settles runId stepId status deed) : status.isTerminal = true := by
  cases hsettles <;> rfl

/-- What a deed says about the ledger of the Run, now and later. -/
structure Attests (runId : String) (deed : Deed) (db : Database) : Prop where
  look : ∀ events, deed = Deed.look runId events → events <+: workflowLog db runId
  append : ∀ eventType evidenceId fields token event,
    deed = .workflow (.appendEvent runId eventType (("evidence_id", .str evidenceId) :: fields)
      token) (.ok event) →
    Recorded db runId eventType evidenceId (("evidence_id", .str evidenceId) :: fields)
  action : ∀ stepId row, ShowsAction runId stepId row deed →
    ∃ now, db.externalActions.find (runId, stepId) = some now ∧ SameAction row now ∧
      (row.status.isTerminal = true → now = row)
  settled : ∀ stepId status, Settles runId stepId status deed → ActionIn db runId stepId status
  step : ∀ stepId row, ShowsStep runId stepId row deed →
    ∃ now, db.toolCalls.find (runId, stepId) = some now ∧ SameStep row now
  coded : ∀ stepId row code, ShowsStep runId stepId row deed → row.errorCode = some code →
    (reportedStatus code).isSome = true →
      (db.externalActions.find (runId, stepId)).isSome = true
  done : ∀ stepId, StepDone runId stepId [deed] → StepCompleted db runId stepId
  listed : ∀ rows, deed = Deed.workflow (.listSteps runId) (.ok rows) →
    ∀ index, 1 ≤ index → index ≤ completedCount rows →
      StepCompleted db runId (callStepId index)
  execution : ∀ row, ShowsExecution runId row deed →
    ∃ now, db.executions.find runId = some now ∧ (row.status.isTerminal = true → now = row)
  concluded : Concluded runId [deed] → LoopEnded db runId

theorem Attests.mono {runId : String} {deed : Deed} {db after : Database}
    (hattests : Attests runId deed db) (hages : Ages db after) : Attests runId deed after where
  look events hdeed := (hattests.look events hdeed).trans (workflowLog_grows hages.log runId)
  append eventType evidenceId fields token event hdeed :=
    (hattests.append eventType evidenceId fields token event hdeed).mono hages
  action stepId row hshows := by
    obtain ⟨now, hfind, hsame, hfinal⟩ := hattests.action stepId row hshows
    obtain ⟨next, hnext, hsame', hfinal'⟩ := hages.actions _ now hfind
    refine ⟨next, hnext, hsame.trans hsame', fun hterminal ↦ ?_⟩
    obtain rfl := hfinal hterminal
    exact hfinal' hterminal
  settled stepId status hsettles :=
    (hattests.settled stepId status hsettles).mono hsettles.terminal hages
  step stepId row hshows := by
    obtain ⟨now, hfind, hsame⟩ := hattests.step stepId row hshows
    obtain ⟨next, hnext, hsame', -⟩ := hages.steps _ now hfind
    exact ⟨next, hnext, hsame.trans hsame'⟩
  coded stepId row code hshows hcode hreported :=
    action_mono (hattests.coded stepId row code hshows hcode hreported) hages
  done stepId hdone := (hattests.done stepId hdone).mono hages
  listed rows hdeed index hpos hle := (hattests.listed rows hdeed index hpos hle).mono hages
  execution row hshows := by
    obtain ⟨now, hfind, hfinal⟩ := hattests.execution row hshows
    obtain ⟨next, hnext, hfinal'⟩ := hages.executions _ now hfind
    refine ⟨next, hnext, fun hterminal ↦ ?_⟩
    obtain rfl := hfinal hterminal
    exact hfinal' hterminal
  concluded hconcluded := (hattests.concluded hconcluded).mono hages

end AgentRuntime.Execution
