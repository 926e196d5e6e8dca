import AgentRuntime.Store.CancelArbitration
import AgentRuntime.Store.ActionLedger
import AgentRuntime.Execution.AnsweredSuccess
import AgentRuntime.Gateway.ActionProjection

/-!
# What a client is told is true

A client acts on a terminal status of its Action and never asks again. `get` reads the Run's record
and, later, a snapshot of the ledger, while attempts, crashes, recoveries and cancel requests move
both. Over every run of a server with the Action runtime, a reported success was answered by the
provider with the reported reference, and a reported definitive failure was denied by it; and an
Action that is reported as cancelled, or failed before any outcome, is never sent afterwards.
-/

set_option autoImplicit false
set_option relaxedAutoImplicit false

namespace AgentRuntime.Gateway

open Library Store Execution ActionProjector

/-! ### Actions of a closed Run -/

/-- The Run has ended with this row, and none of its actions was dispatched. -/
structure EndedUnsent (runId : String) (row : RunRow) (db : Database) : Prop where
  find : db.runs.find runId = some row
  ended : row.status.isTerminal = true
  unsent : ∀ stepId, Undispatched runId stepId db

section Ended

variable {hasher : Hasher} {db : Database} {runId : String} {row : RunRow}

/-- No request changes it. -/
theorem EndedUnsent.apply (hended : EndedUnsent runId row db) (request : Request) :
    EndedUnsent runId row (request.apply hasher db) := by
  have hbarred : DispatchBarred runId db := by
    intro found hfind hrunning
    obtain rfl : row = found := Option.some.inj (hended.find.symm.trans hfind)
    have hterminal := hended.ended
    rw [hrunning] at hterminal
    cases hterminal
  constructor
  case find => exact terminal_row_run hended.find hended.ended [request]
  case ended => exact hended.ended
  case unsent =>
    intro stepId
    rcases ledger_of_apply hasher db request with hsame | ⟨call, -, hchange⟩
    · exact undispatched_of_sameLedger hsame (hended.unsent stepId)
    · exact undispatched_of_barred hchange hbarred (hended.unsent stepId)

theorem EndedUnsent.run (hended : EndedUnsent runId row db) (history : List Request) :
    EndedUnsent runId row ((storeMachine hasher).run db history) :=
  (storeMachine hasher).invariant_run (EndedUnsent runId row)
    (fun _ request hkept _ ↦ hkept.apply request) hended ((storeMachine hasher).admits_true _ _)

/-- What the snapshot lists of an ended Run without a dispatch. -/
theorem EndedUnsent.listed (hended : EndedUnsent runId row db) :
    ∀ action ∈ (readRunSnapshot db runId 0).externalActions, NeverDispatched action.2 := by
  intro action hmem
  exact hended.unsent action.1 action.2
    ((mem_listExternalActions db runId action.1 action.2).mp hmem)

/-- The ledger accounts for every call, so there was none for this Run. -/
theorem EndedUnsent.uncalled {deployment : Deployment} {world : World}
    (hended : EndedUnsent runId row world.db) (haccounted : Accounted deployment world) :
    ∀ call ∈ world.calls, call.request.runId ≠ runId := by
  rintro call hcall rfl
  obtain ⟨action, hcounted⟩ := haccounted.counted call.commit (haccounted.spent call hcall)
  have hnever := hended.unsent call.request.stepId action hcounted.find
  have hpositive := hcounted.pos.trans hcounted.le
  rw [hnever.count] at hpositive
  exact absurd hpositive (by decide)

end Ended

section Answers

variable {gateway : DurableActionGateway} {runId : String} {row : RunRow}
  {resource : ProjectedAction} {db : Database}

/-- What an answer that the Action was not sent says about the record and the snapshot. -/
theorem unsent_of_reported {actions : List (String × ExternalActionRow)}
    (hreported : Reported (rowToRun runId row) actions resource)
    (hunsent : resource.status = .cancelled ∨
      resource.errorCode = some "action_execution_failed") :
    (∀ action ∈ actions, NeverDispatched action.2) ∧ row.errorCode ≠ some unknownCode ∧
      (row.status = .cancelled ∧ resource.status = .cancelled ∨
        row.status = .failed ∧ resource.status = .failed) := by
  cases hreported with
  | unsent hnever hknown _ hstatus =>
    refine ⟨hnever, hknown, hstatus.imp ?_ ?_⟩
    · exact fun hcancelled ↦ ⟨hcancelled.1, hcancelled.2.1⟩
    · exact fun hfailed ↦ ⟨hfailed.1, hfailed.2.1⟩
  | succeeded _ _ _ _ _ _ hstatus hcode | failed _ _ _ _ hstatus hcode
  | unknown _ _ hstatus hcode =>
    rw [hstatus, hcode] at hunsent
    exact absurd hunsent (by decide)
  | pending _ _ _ hstatus hcode =>
    rw [hcode] at hunsent
    obtain hcancelled | hnone := hunsent
    · rw [hcancelled] at hstatus
      cases hstatus
    · cases hnone

/-- The record ended the Run before the snapshot was taken. -/
theorem endedUnsent_of_project {hasher : Hasher} {history : List Request}
    (hfind : db.runs.find runId = some row)
    (hproject : project gateway (rowToRun runId row)
      (readRunSnapshot ((storeMachine hasher).run db history) runId 0) = .ok resource)
    (hunsent : resource.status = .cancelled ∨
      resource.errorCode = some "action_execution_failed") :
    EndedUnsent runId row ((storeMachine hasher).run db history) := by
  obtain ⟨hnever, -, hstatus⟩ := unsent_of_reported (reported_of_project gateway hproject) hunsent
  have hended : row.status.isTerminal = true := by
    rcases hstatus with ⟨hrow, -⟩ | ⟨hrow, -⟩
    · rw [hrow]
      rfl
    · rw [hrow]
      rfl
  constructor
  case find => exact terminal_row_run hfind hended history
  case ended => exact hended
  case unsent =>
    intro stepId action haction
    exact hnever (stepId, action) ((mem_listExternalActions _ runId stepId action).mpr haction)

/-- Whoever reads an ended Run without a dispatch is told the same. -/
theorem EndedUnsent.same_answer {first later : ProjectedAction} (hended : EndedUnsent runId row db)
    (hknown : row.errorCode ≠ some unknownCode)
    (hstatus : row.status = .cancelled ∧ first.status = .cancelled ∨
      row.status = .failed ∧ first.status = .failed)
    (hproject : project gateway (rowToRun runId row) (readRunSnapshot db runId 0) = .ok later) :
    later.status = first.status := by
  have hlisted := hended.listed
  have hsettled {action : ExternalActionRow} {status : ExternalActionStatus}
      (hactions : (readRunSnapshot db runId 0).externalActions = [(actionStepId, action)])
      (hrow : action.status = status) : status = .prepared := by
    have hnever := hlisted (actionStepId, action)
      (by rw [hactions]; exact List.mem_singleton_self _)
    exact hrow.symm.trans hnever.status
  cases reported_of_project gateway hproject with
  | succeeded action reference hactions hrow => cases hsettled hactions hrow
  | failed action hactions hrow => cases hsettled hactions hrow
  | unsent _ _ _ hagain =>
    rcases hstatus with ⟨hrow, hfirst⟩ | ⟨hrow, hfirst⟩
    · rcases hagain with ⟨-, hlater, -⟩ | ⟨hother, -⟩
      · rw [hfirst, hlater]
      · cases hrow.symm.trans hother
    · rcases hagain with ⟨hother, -⟩ | ⟨-, hlater, -⟩
      · cases hrow.symm.trans hother
      · rw [hfirst, hlater]
  | unknown hcause =>
    obtain hcode | ⟨action, hmem, hsent⟩ := hcause
    · exact (hknown hcode).elim
    · exact (hsent (hlisted action hmem)).elim
  | pending hrun =>
    have hended := hended.ended
    have hopen : row.status.isTerminal = false := hrun
    rw [hopen] at hended
    cases hended

/-- The answer that a terminal action calls for. -/
def AnswersTerminal (action : ExternalActionRow) (resource : ProjectedAction) : Prop :=
  action.status = .succeeded ∧ resource.status = .succeeded ∧
      resource.result = action.providerReference ∧ resource.errorCode = none ∨
    action.status = .failed ∧ resource.status = .failed ∧ resource.result = none ∧
      resource.errorCode = some "external_action_failed"

theorem AnswersTerminal.unique {action : ExternalActionRow} {first later : ProjectedAction}
    (hfirst : AnswersTerminal action first) (hlater : AnswersTerminal action later) :
    later.status = first.status ∧ later.result = first.result ∧
      later.errorCode = first.errorCode := by
  rcases hfirst with ⟨hsucceeded, hfirst⟩ | ⟨hfailed, hfirst⟩
  · rcases hlater with ⟨-, hlater⟩ | ⟨hother, -⟩
    · simp [hfirst, hlater]
    · cases hsucceeded.symm.trans hother
  · rcases hlater with ⟨hother, -⟩ | ⟨-, hlater⟩
    · cases hfailed.symm.trans hother
    · simp [hfirst, hlater]

/-- A success or a definitive failure is read off the only action of the Run. -/
theorem answersTerminal_of_reported {run : RunRecord}
    {actions : List (String × ExternalActionRow)} (hreported : Reported run actions resource)
    (hsettled : resource.status = .succeeded ∨
      resource.errorCode = some "external_action_failed") :
    ∃ action, actions = [(actionStepId, action)] ∧ action.status.isTerminal = true ∧
      AnswersTerminal action resource := by
  cases hreported with
  | succeeded action reference hactions hrow hreference hresult hstatus hcode =>
    refine ⟨action, hactions, by rw [hrow]; rfl, .inl ⟨hrow, hstatus, ?_, hcode⟩⟩
    rw [hresult, hreference]
  | failed action hactions hrow hresult hstatus hcode =>
    exact ⟨action, hactions, by rw [hrow]; rfl, .inr ⟨hrow, hstatus, hresult, hcode⟩⟩
  | unsent _ _ _ hstatus =>
    rcases hstatus with ⟨-, hstatus, hcode⟩ | ⟨-, hstatus, hcode⟩
    · rw [hstatus, hcode] at hsettled
      exact absurd hsettled (by decide)
    · rw [hstatus, hcode] at hsettled
      exact absurd hsettled (by decide)
  | unknown _ _ hstatus hcode =>
    rw [hstatus, hcode] at hsettled
    exact absurd hsettled (by decide)
  | pending _ _ _ hstatus hcode =>
    obtain hsucceeded | hfailed := hsettled
    · rw [hsucceeded] at hstatus
      cases hstatus
    · rw [hcode] at hfailed
      cases hfailed

/-- Whoever reads the ledger with a terminal action is told what it calls for, or that the outcome
is unknown. -/
theorem unknown_or_answersTerminal {run : RunRecord} {actions : List (String × ExternalActionRow)}
    {action : ExternalActionRow} (hmem : (actionStepId, action) ∈ actions)
    (hterminal : action.status.isTerminal = true) (hreported : Reported run actions resource) :
    resource.status = .outcomeUnknown ∨ AnswersTerminal action resource := by
  cases hreported with
  | succeeded found reference hactions hrow hreference hresult hstatus hcode =>
    obtain ⟨-, rfl⟩ := Prod.mk.inj (List.mem_singleton.mp (hactions ▸ hmem))
    exact .inr (.inl ⟨hrow, hstatus, by rw [hresult, hreference], hcode⟩)
  | failed found hactions hrow hresult hstatus hcode =>
    obtain ⟨-, rfl⟩ := Prod.mk.inj (List.mem_singleton.mp (hactions ▸ hmem))
    exact .inr (.inr ⟨hrow, hstatus, hresult, hcode⟩)
  | unsent hnever =>
    rw [(hnever _ hmem).status] at hterminal
    cases hterminal
  | unknown _ _ hstatus => exact .inl hstatus
  | pending _ hactions =>
    rw [hactions _ hmem] at hterminal
    cases hterminal

end Answers

/-! ### Every run of a server -/

section Server

variable {hasher : Hasher} {deployment : Deployment} {runtime : DurableActionGatewayRuntime}

/-- Whatever the server trusts is a provider's answer with the reference. -/
theorem answer_of_trust {claim : RunLeaseClaim} {raw result : Json} {reference : String}
    (htrusted : runtime.trust claim raw result reference) :
    ∃ answer, validateProviderResult raw = some answer ∧ answer.providerReference = reference := by
  unfold DurableActionGatewayRuntime.trust at htrusted
  split_ifs at htrusted
  · obtain ⟨answer, hvalid, hreference, -⟩ := htrusted
    exact ⟨answer, hvalid, hreference.symm⟩
  · obtain ⟨-, -, -, -, -, answer, -, -, -, -, hvalid, -, hreference, -⟩ := htrusted
    exact ⟨answer, hvalid, hreference.symm⟩

/-- A client is told the truth. After every run of a server, and for whatever record of the Run the
projection was given: a reported reference is what the provider answered to a call for the Action,
and there is one for every reported success; and for a reported definitive failure the provider
denied a call, which had no effect, or it was never called at all. -/
theorem told_outcome_is_true (hdeployed : runtime.Deployed deployment) (labels : List Label)
    (hfresh : (attemptMachine hasher runtime.attempt).Admits FreshTokens System.init labels) :
    let world := ((attemptMachine hasher runtime.attempt).run System.init labels).world
    ∀ run resource, project runtime.gateway run (readRunSnapshot world.db run.runId 0) =
        .ok resource →
      (resource.status = .succeeded ↔ resource.result.isSome = true) ∧
      (∀ reference, resource.result = some reference →
        ∃ call ∈ world.calls, call.action = (run.runId, actionStepId) ∧
          ∃ raw answer, call.answer = some (.ok raw) ∧ validateProviderResult raw = some answer ∧
            answer.providerReference = reference) ∧
      (resource.errorCode = some "external_action_failed" →
        (∃ call ∈ world.calls, call.action = (run.runId, actionStepId) ∧
          call.isDefinitive = true ∧ call.applied = false) ∨
        ∀ call ∈ world.calls, call.action ≠ (run.runId, actionStepId)) := by
  intro world run resource hproject
  have hinv := @answerInv_run hasher runtime.trust _
    DurableActionGatewayRuntime.honest_attempt labels
  have haccounted : Accounted deployment world :=
    (systemAccounted_attempts (fun _ claim _ ↦
      DurableActionGatewayRuntime.safe_attempt hdeployed claim) hfresh).1
  cases reported_of_project runtime.gateway hproject with
  | succeeded row reference hactions hrow hreference hresult hstatus hcode =>
    refine ⟨by simp [hstatus, hresult], fun other hother ↦ ?_, fun hfailed ↦ ?_⟩
    · obtain rfl : reference = other := Option.some.inj (hresult.symm.trans hother)
      obtain ⟨worker, claim, dispatch, raw, result, given, -, hreturned, htrusted, -, hgiven⟩ :=
        hinv.rows _ row (find_of_single hactions) hrow
      obtain rfl : reference = given := Option.some.inj (hreference.symm.trans hgiven)
      obtain ⟨call, hmem, hcommit, hanswer⟩ := hreturned
      obtain ⟨answer, hvalid, hanswered⟩ := answer_of_trust htrusted
      refine ⟨call, hmem, ?_, raw, answer, hanswer, hvalid, hanswered⟩
      exact congrArg (fun commit : DispatchCommit ↦ (commit.runId, commit.stepId)) hcommit
    · rw [hcode] at hfailed
      cases hfailed
  | failed row hactions hrow hresult hstatus hcode =>
    refine ⟨by simp [hstatus, hresult], fun other hother ↦ ?_, fun _ ↦ ?_⟩
    · rw [hresult] at hother
      cases hother
    · obtain ⟨call, hmem, hkey, hdefinitive⟩ | hunsupported :=
        (haccounted.rows _ row (find_of_single hactions)).failed hrow
      · have haction : call.action = (run.runId, actionStepId) := congrArg Prod.fst hkey
        exact .inl ⟨call, hmem, haction, hdefinitive, haccounted.denied call hmem hdefinitive⟩
      · refine .inr fun call hmem haction ↦ ?_
        obtain ⟨entered, hentered⟩ := haccounted.entered call hmem
        have hsame : world.db.externalActions.find (run.runId, actionStepId) = some entered :=
          haction ▸ hentered.find
        obtain rfl : row = entered := Option.some.inj ((find_of_single hactions).symm.trans hsame)
        exact hentered.supported hunsupported
  | unsent _ _ hresult hstatus =>
    have hcodes : resource.status ≠ .succeeded ∧
        resource.errorCode ≠ some "external_action_failed" := by
      rcases hstatus with ⟨-, hstatus, hcode⟩ | ⟨-, hstatus, hcode⟩
      · simp [hstatus, hcode]
      · simp [hstatus, hcode]
    exact ⟨by simp [hcodes.1, hresult], fun _ hother ↦ by simp [hresult] at hother,
      fun hfailed ↦ (hcodes.2 hfailed).elim⟩
  | unknown _ hresult hstatus hcode =>
    exact ⟨by simp [hstatus, hresult], fun _ hother ↦ by simp [hresult] at hother,
      fun hfailed ↦ by simp [hcode, unknownCode] at hfailed⟩
  | pending _ _ hresult hstatus hcode =>
    have hopen : resource.status ≠ .succeeded := by
      intro hsucceeded
      rw [hsucceeded] at hstatus
      cases hstatus
    exact ⟨by simp [hopen, hresult], fun _ hother ↦ by simp [hresult] at hother,
      fun hfailed ↦ by simp [hcode] at hfailed⟩

/-- An Action that is reported as cancelled, or as failed before any outcome, is never sent: the
record was read at one time, the snapshot later, and whatever the server does afterwards, no
provider is called for the Run. Every later answer has the same status. -/
theorem unsent_action_is_never_sent (hdeployed : runtime.Deployed deployment)
    (early middle late : List Label)
    (hfresh : (attemptMachine hasher runtime.attempt).Admits FreshTokens System.init
      (early ++ middle ++ late)) :
    let machine := attemptMachine hasher runtime.attempt
    let read := machine.run System.init early
    let seen := machine.run read middle
    let last := machine.run seen late
    ∀ runId row resource, read.world.db.runs.find runId = some row →
      project runtime.gateway (rowToRun runId row) (readRunSnapshot seen.world.db runId 0) =
        .ok resource →
      resource.status = .cancelled ∨ resource.errorCode = some "action_execution_failed" →
        (∀ call ∈ last.world.calls, call.request.runId ≠ runId) ∧
        ∀ more found again, last.world.db.runs.find runId = some found →
          project runtime.gateway (rowToRun runId found)
            (readRunSnapshot (machine.run last more).world.db runId 0) = .ok again →
          again.status = resource.status := by
  intro machine read seen last runId row resource hfind hproject hunsent
  have hstart : machine.run System.init (early ++ middle ++ late) = last := by
    rw [machine.run_append, machine.run_append]
  obtain ⟨history, hseen⟩ := storeHistory_of_attempts hasher runtime.attempt read middle
  have hended : EndedUnsent runId row seen.world.db := by
    have hproject := hproject
    rw [show seen.world.db = _ from hseen] at hproject ⊢
    exact endedUnsent_of_project hfind hproject hunsent
  have hkept (labels : List Label) :
      EndedUnsent runId row (machine.run seen labels).world.db := by
    obtain ⟨requests, hlater⟩ := storeHistory_of_attempts hasher runtime.attempt seen labels
    rw [show (machine.run seen labels).world.db = _ from hlater]
    exact hended.run requests
  obtain ⟨-, hknown, hstatus⟩ :=
    unsent_of_reported (reported_of_project runtime.gateway hproject) hunsent
  constructor
  · have haccounted : Accounted deployment last.world := by
      rw [← hstart]
      exact (systemAccounted_attempts (fun _ claim _ ↦
        DurableActionGatewayRuntime.safe_attempt hdeployed claim) hfresh).1
    exact (hkept late).uncalled haccounted
  · intro more found again hfound hagain
    obtain rfl : row = found := Option.some.inj ((hkept late).find.symm.trans hfound)
    have hlast : EndedUnsent runId row (machine.run last more).world.db := by
      rw [show machine.run last more = machine.run seen (late ++ more) from
        (machine.run_append seen late more).symm]
      exact hkept (late ++ more)
    exact hlast.same_answer hknown hstatus hagain

/-- A settled answer is never contradicted. Once a client was told the reference of a success, or a
definitive failure, then whatever the server does and whatever record is projected, a later answer
is the same or says that the outcome is unknown. -/
theorem settled_answer_is_never_contradicted (hasher : Hasher)
    (runtime : DurableActionGatewayRuntime) (labels more : List Label) :
    let machine := attemptMachine hasher runtime.attempt
    let seen := machine.run System.init labels
    let last := machine.run seen more
    ∀ run resource, project runtime.gateway run (readRunSnapshot seen.world.db run.runId 0) =
        .ok resource →
      resource.status = .succeeded ∨ resource.errorCode = some "external_action_failed" →
      ∀ later again, later.runId = run.runId →
        project runtime.gateway later (readRunSnapshot last.world.db later.runId 0) = .ok again →
        again.status = .outcomeUnknown ∨
          again.status = resource.status ∧ again.result = resource.result ∧
            again.errorCode = resource.errorCode := by
  intro machine seen last run resource hproject hsettled later again hrunId hagain
  obtain ⟨history, hlast⟩ := storeHistory_of_attempts hasher runtime.attempt seen more
  obtain ⟨action, hactions, hterminal, hfirst⟩ :=
    answersTerminal_of_reported (reported_of_project runtime.gateway hproject) hsettled
  have hkept : last.world.db.externalActions.find (run.runId, actionStepId) = some action := by
    rw [show last.world.db = _ from hlast]
    exact (storeMachine hasher).invariant_run
      (fun db ↦ db.externalActions.find (run.runId, actionStepId) = some action)
      (fun _ request hfind _ ↦ terminal_apply hasher request hfind hterminal)
      (find_of_single hactions) ((storeMachine hasher).admits_true _ _)
  have hmem : (actionStepId, action) ∈
      (readRunSnapshot last.world.db later.runId 0).externalActions := by
    rw [hrunId]
    exact (mem_listExternalActions last.world.db run.runId actionStepId action).mpr hkept
  refine (unknown_or_answersTerminal hmem hterminal
    (reported_of_project runtime.gateway hagain)).imp_right fun hlater ↦ ?_
  exact hfirst.unique hlater

end Server

/-! ### A sample server -/

def webhookProviders : ProviderRegistry :=
  fun name ↦ if name = "hold" then some sampleProvider else none

def webhookRegistration : RuntimeRegistration :=
  { sampleRegistration with
    domainId := actionDomainId
    schemaVersion := actionSchemaVersion
    parseInput := fun raw ↦
      match DurableActionInput.validate (fun _ ↦ true) raw with
      | some input => .ok input.dump
      | none => .error (.validation "DurableActionInput")
    initialState := fun threadId ↦
      { threadId := threadId, executionTrace := [], fields := [], domainId := actionDomainId
        schemaVersion := actionSchemaVersion } }

def webhookServer : DurableActionGatewayRuntime where
  gateway :=
    { manager := ⟨fun _ _ ↦ some webhookRegistration, fun failure ↦ failure.text⟩
      destinations := fun name ↦ (webhookProviders name).isSome
      sha256Text := id
      sha256 := fun _ ↦ "h"
      acceptsPayload := fun _ ↦ true
      registered := by
        intro registration hregistered
        obtain rfl := Option.some.inj hregistered
        exact ⟨rfl, rfl, fun _ ↦ rfl⟩ }
  registry := webhookProviders
  rounds := 3
  resolves := fun _ ↦ rfl

theorem webhookServer_deployed : webhookServer.Deployed sampleDeployment where
  maxDispatches := rfl
  dispatcher := rfl
  loops agentId agentVersion registration _ hregistration := by
    obtain rfl := Option.some.inj hregistration
    exact ⟨rfl, rfl⟩

/-- The Run that the gateway submits for an Action of the key `key`. -/
def webhookRun : RunRecord :=
  let request : ActionCreateRequest := ⟨webhookSend, "hold", "key", []⟩
  let context : TenantContext := ⟨"acme", "ada", ["tools:execute", "external-actions:execute"]⟩
  submittedRecord webhookRegistration (webhookServer.gateway.runRequest request context)
    (toDurableActionInput request).dump none context ⟨"1", "09:00", "09:00"⟩

/-- Submission, claim and the attempt up to its first dispatch. -/
def webhookPrepared : List Label :=
  [.control (sampleReading 0 "s") (.run (.createRunWithEvent webhookRun "run.queued" [])),
    .claim (sampleReading 1 "l") "w" 30, .work 0 (.flag false)] ++
  List.replicate 10 (storeStep 0 "a")

/-- The provider answers, and the attempt commits. -/
def webhookAnswered : List Label :=
  let answer : Json := .obj [("provider_reference", .str "ref1"),
    ("result", .obj [("provider_reference", .str "ref1")])]
  [storeStep 0 "a"] ++ List.replicate 3 (storeStep 0 "b") ++
    [.work 0 .noted, .work 0 (.provider (.ok answer))] ++ List.replicate 9 (storeStep 0 "b") ++
    [.work 0 .noted, .work 0 (.flag false), storeStep 0 "b"]

/-- A whole attempt, from the submission to the commit. -/
def webhookSent : List Label := webhookPrepared ++ webhookAnswered

/-- The client cancels before the dispatch, which is refused. -/
def webhookCancelled : List Label :=
  webhookPrepared ++
    [.control (sampleReading 10 "s") (.run (.requestCancelAtomically "run_1" "acme"))] ++
    List.replicate 4 (storeStep 0 "a") ++ [.work 0 .noted, .work 0 (.flag false)] ++
    List.replicate 2 (storeStep 0 "a")

/-- What `get` answers for `run_1` in a state: the status and the reference. -/
def webhookReport (system : System) : Option (ActionStatus × Option String) :=
  (system.world.db.runs.find "run_1").bind fun row ↦
    match project webhookServer.gateway (rowToRun "run_1" row)
      (readRunSnapshot system.world.db "run_1" 0) with
    | .ok resource => some (resource.status, resource.result)
    | .error _ => none

theorem webhookReport_eq_some {system : System} {report : ActionStatus × Option String}
    (hreport : webhookReport system = some report) :
    ∃ row resource, system.world.db.runs.find "run_1" = some row ∧
      project webhookServer.gateway (rowToRun "run_1" row)
        (readRunSnapshot system.world.db "run_1" 0) = .ok resource ∧
      resource.status = report.1 ∧ resource.result = report.2 := by
  obtain ⟨row, hfind, hrow⟩ := Option.bind_eq_some_iff.mp hreport
  split at hrow
  · next resource hproject =>
    obtain rfl := Option.some.inj hrow
    exact ⟨row, resource, hfind, hproject, rfl, rfl⟩
  · cases hrow

set_option maxRecDepth 10000 in
theorem sent_webhook_was_answered :
    let system := (attemptMachine sampleHasher webhookServer.attempt).run System.init webhookSent
    webhookReport system = some (.succeeded, some "ref1") ∧
      ∃ call ∈ system.world.calls, call.action = ("run_1", actionStepId) ∧
        ∃ raw answer, call.answer = some (.ok raw) ∧ validateProviderResult raw = some answer ∧
          answer.providerReference = "ref1" := by
  have hfresh : (attemptMachine sampleHasher webhookServer.attempt).Admits FreshTokens System.init
      webhookSent := by decide +kernel
  have hreport : webhookReport ((attemptMachine sampleHasher webhookServer.attempt).run System.init
      webhookSent) = some (.succeeded, some "ref1") := by decide +kernel
  obtain ⟨row, resource, -, hproject, -, hresult⟩ := webhookReport_eq_some hreport
  obtain ⟨-, hanswered, -⟩ :=
    told_outcome_is_true webhookServer_deployed webhookSent hfresh _ _ hproject
  exact ⟨hreport, hanswered "ref1" hresult⟩

set_option maxRecDepth 10000 in
theorem cancelled_webhook_is_never_sent :
    let machine := attemptMachine sampleHasher webhookServer.attempt
    let system := machine.run System.init webhookCancelled
    webhookReport system = some (.cancelled, none) ∧
      ∀ call ∈ (machine.run system [.claim (sampleReading 90 "m") "w" 30]).world.calls,
        call.request.runId ≠ "run_1" := by
  have hfresh : (attemptMachine sampleHasher webhookServer.attempt).Admits FreshTokens System.init
      (webhookCancelled ++ [] ++ [.claim (sampleReading 90 "m") "w" 30]) := by decide +kernel
  have hreport : webhookReport ((attemptMachine sampleHasher webhookServer.attempt).run System.init
      webhookCancelled) = some (.cancelled, none) := by decide +kernel
  obtain ⟨row, resource, hfind, hproject, hstatus, -⟩ := webhookReport_eq_some hreport
  exact ⟨hreport, (unsent_action_is_never_sent webhookServer_deployed webhookCancelled [] _ hfresh
    "run_1" row resource hfind hproject (.inl hstatus)).1⟩

end AgentRuntime.Gateway
