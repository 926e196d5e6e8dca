import AgentRuntime.Execution.StoreRequests
import AgentRuntime.Execution.BoundedDispatch

/-!
# Servers with runtimes of their own

`RuntimeManager._execute_owned_run` treats all registered runtimes alike: it loads the checkpoint,
calls `runtime.execute` and commits what came of it. An `Executor` says what `runtime.execute` does,
so that a server may serve other runtimes than the tool loops; with the registered loops the attempt
is that of `RuntimeManager` (`executeOwnedRunWith_self`). `attemptMachine` is the whole system with
any attempts. Attempts that keep the accounting protocol keep the accounts of dispatches.
-/

set_option autoImplicit false
set_option relaxedAutoImplicit false

namespace AgentRuntime.Execution

open Library Store

/-! ### Attempts -/

/-- What `runtime.execute` does for a Run and its registration. -/
abbrev Executor : Type :=
  RunRecord → RuntimeRegistration → RuntimeState → Payload → RuntimeExecutionContext →
    Runtime RuntimeResponse

namespace RuntimeManager

/-- Prepare and execute a runtime on a loaded checkpoint. -/
def runRuntimeWith (execute : Executor) (claim : RunLeaseClaim) (registration : RuntimeRegistration)
    (checkpoint : ThreadStateSnapshot) : Manager (RuntimeResponse × RuntimeState) := do
  let run := claim.run
  let candidate := (run.state <|> checkpoint.state).getD (registration.initialState run.threadId)
  let state ← ofExcept (validateRuntimeState registration candidate run.threadId "initial_state")
  discard <| RunStore.appendAttemptEvent run.runId claim.leaseToken "checkpoint.loaded"
    [("source", .str (stateSource run checkpoint)), ("revision", Json.nat checkpoint.revision)]
  let runtimeInput ← ofExcept (registration.parseInput run.input)
  assertReferencedRunsVisible run.tenantId (registration.referencedRunIds runtimeInput)
  let authority ← ofExcept (executionAuthority run)
  let response ← observed (execute run registration state runtimeInput
    { runId := run.runId
      threadId := run.threadId
      recoveredAfterRestart := claim.recoveryReason.isSome
      authority := authority
      leaseToken := some claim.leaseToken })
  let resultState ←
    ofExcept (validateRuntimeState registration response.state run.threadId "execute")
  return (response, resultState)

variable (manager : RuntimeManager) (execute : Executor)

/-- The body of `try` up to the runtime's result. -/
def executeRunWith (claim : RunLeaseClaim) (precedence : Bool) :
    Manager (Option (RuntimeResponse × RuntimeState)) := do
  let run := claim.run
  let registration ← ofExcept (manager.registrationFor run)
  let loaded ← Program.attempt (RunStore.loadThreadStateSnapshot run.threadId run.tenantId
    (some run.domainId) (some run.schemaVersion) run.checkpointBaseRevision)
  match loaded with
  | .error (.store (.checkpointRevisionConflict ..)) =>
    refuseStaleCheckpoint claim precedence
    return none
  | .error failure => throw failure
  | .ok checkpoint => return some (← runRuntimeWith execute claim registration checkpoint)

/-- `_execute_owned_run`. -/
def executeOwnedRunWith (claim : RunLeaseClaim) : Manager Unit := do
  if ← leaseLost then return
  let precedence ← reconcileBeforeCancelling claim
  if claim.run.cancelRequested && !precedence then
    markCancelled claim.run "cancelled_after_start_claim" claim.leaseToken
  else
    match ← Program.attempt (manager.executeRunWith execute claim precedence) with
    | .error failure => manager.concludeFailure claim claim.run precedence failure
    | .ok none => return
    | .ok (some (response, state)) =>
      if ← leaseLost then return
      match ← Program.attempt (commitResult claim response state) with
      | .ok () => return
      | .error failure =>
        manager.concludeFailure claim (withResult claim.run response state) precedence failure

/-- The registered runtimes execute themselves. -/
theorem executeOwnedRunWith_self (claim : RunLeaseClaim) :
    manager.executeOwnedRunWith (fun _ registration ↦ registration.execute) claim =
      manager.executeOwnedRun claim :=
  rfl

end RuntimeManager

/-! ### The system -/

/-- A manager without any registration. -/
def emptyManager : RuntimeManager := ⟨fun _ _ ↦ none, fun _ ↦ ""⟩

namespace System

variable (hasher : Hasher) (attempt : RunLeaseClaim → Manager Unit)

/-- A worker loop claims the next Run and starts an attempt. -/
def claimWith (system : System) (reading : Reading) (ownerId : String)
    (leaseDurationSeconds : Int) : System :=
  match claimNextRun system.world.db reading ownerId leaseDurationSeconds
      (some reconciliationPendingCode) with
  | .ok (some claim, after) =>
    { world := { system.world with db := after }
      workers := Function.update system.workers system.claims.length (some (attempt claim))
      claims := system.claims ++ [claim] }
  | .ok (none, after) => system.withDatabase after
  | .error _ => system

/-- The system after one event; only a claim depends on what the servers run. -/
def nextWith (system : System) : Label → System
  | .claim reading ownerId duration => system.claimWith attempt reading ownerId duration
  | label => system.next hasher emptyManager label

theorem nextWith_executeOwnedRun (manager : RuntimeManager) (system : System) (label : Label) :
    system.nextWith hasher manager.executeOwnedRun label = system.next hasher manager label := by
  cases label <;> rfl

end System

/-- The system with any attempts, driven by events in any order. -/
def attemptMachine (hasher : Hasher) (attempt : RunLeaseClaim → Manager Unit) :
    Machine System Label where
  init := System.init
  next := System.nextWith hasher attempt

theorem attemptMachine_executeOwnedRun (hasher : Hasher) (manager : RuntimeManager) :
    attemptMachine hasher manager.executeOwnedRun = systemMachine hasher manager := by
  have hnext : System.nextWith hasher manager.executeOwnedRun = System.next hasher manager := by
    funext system label
    exact system.nextWith_executeOwnedRun hasher manager label
  unfold attemptMachine systemMachine
  rw [hnext]

/-! ### The database -/

/-- An event leaves the database alone or applies a request, whatever the attempts are. -/
theorem database_of_nextWith (hasher : Hasher) (attempt : RunLeaseClaim → Manager Unit)
    (system : System) (label : Label) :
    (system.nextWith hasher attempt label).world.db = system.world.db ∨
      ∃ request : Request, (system.nextWith hasher attempt label).world.db =
        request.apply hasher system.world.db := by
  cases label with
  | claim reading ownerId duration =>
    -- The attempts have no part in what a claim writes.
    have hclaim : (system.nextWith hasher attempt (.claim reading ownerId duration)).world.db =
        (system.next hasher emptyManager (.claim reading ownerId duration)).world.db := by
      simp only [System.nextWith, System.claimWith, System.next, System.claim]
      rcases claimNextRun system.world.db reading ownerId duration
        (some reconciliationPendingCode) with error | ⟨_ | claim, after⟩
      · rfl
      · rfl
      · rfl
    rw [hclaim]
    exact database_of_next hasher emptyManager system _
  | work | crash | control | applyEffect => exact database_of_next hasher emptyManager system _

/-- The database of a run is that of a history of the stores. -/
theorem storeHistory_of_attempts (hasher : Hasher) (attempt : RunLeaseClaim → Manager Unit)
    (system : System) (labels : List Label) :
    ∃ history, ((attemptMachine hasher attempt).run system labels).world.db =
      (storeMachine hasher).run system.world.db history := by
  induction labels generalizing system with
  | nil => exact ⟨[], rfl⟩
  | cons label rest ih =>
    obtain ⟨history, hrest⟩ := ih (system.nextWith hasher attempt label)
    rcases database_of_nextWith hasher attempt system label with hsame | ⟨request, happly⟩
    · exact ⟨history, hrest.trans (by rw [hsame])⟩
    · refine ⟨request :: history, hrest.trans ?_⟩
      rw [happly]
      rfl

/-! ### The accounts -/

section Accounts

variable {hasher : Hasher} {deployment : Deployment} {manager : RuntimeManager}
  {execute : Executor} {attempt : RunLeaseClaim → Manager Unit}

theorem RuntimeManager.safe_runRuntimeWith {worker : Nat} {world : World} (claim : RunLeaseClaim)
    {registration : RuntimeRegistration}
    (hexecute : ∀ state runtimeInput context later, Safe hasher deployment worker
      (execute claim.run registration state runtimeInput context) later)
    (checkpoint : ThreadStateSnapshot) :
    Safe hasher deployment worker
      (RuntimeManager.runRuntimeWith execute claim registration checkpoint) world := by
  unfold RuntimeManager.runRuntimeWith
  simp only [Program.bind_eq_bind, Program.discard_eq_bind, Program.bind_bind, Program.done_bind]
  refine safe_bind (safe_ofExcept _) fun state _ _ ↦ ?_
  refine safe_bind (safe_run _) fun _ _ _ ↦ ?_
  refine safe_bind (safe_ofExcept _) fun runtimeInput _ _ ↦ ?_
  refine safe_bind (RuntimeManager.safe_assertReferencedRunsVisible _ _) fun _ _ _ ↦ ?_
  refine safe_bind (safe_ofExcept _) fun authority _ _ ↦ ?_
  refine safe_bind (RuntimeManager.safe_observed (hexecute _ _ _ _)) fun response _ _ ↦ ?_
  exact safe_bind (safe_ofExcept _) fun _ _ _ ↦ safe_done _

theorem RuntimeManager.safe_executeOwnedRunWith {worker : Nat} {world : World}
    (hexecute : ∀ run registration, manager.registrationFor run = .ok registration →
      ∀ state runtimeInput context later, Safe hasher deployment worker
        (execute run registration state runtimeInput context) later)
    (claim : RunLeaseClaim) :
    Safe hasher deployment worker (manager.executeOwnedRunWith execute claim) world := by
  have hrun (precedence : Bool) (later : World) : Safe hasher deployment worker
      (manager.executeRunWith execute claim precedence) later := by
    unfold RuntimeManager.executeRunWith
    simp only [Program.bind_eq_bind, Program.throw_eq_raise, Program.pure_eq_done]
    cases hregistration : manager.registrationFor claim.run with
    | error failure => exact safe_raise failure
    | ok registration =>
      refine Program.wp_try _ (safe_run _) fun loaded _ _ _ ↦ ?_
      split
      · exact safe_bind (RuntimeManager.safe_refuseStaleCheckpoint _ _) fun _ _ _ ↦ safe_done _
      · exact safe_raise _
      · exact safe_bind (RuntimeManager.safe_runRuntimeWith claim
          (hexecute claim.run registration hregistration) _) fun _ _ _ ↦ safe_done _
  unfold RuntimeManager.executeOwnedRunWith
  simp only [Program.bind_eq_bind, Program.pure_eq_done]
  refine safe_bind (safe_ask rfl fun _ _ ↦ id) fun lost _ _ ↦ ?_
  split_ifs
  · exact safe_done _
  refine safe_bind (RuntimeManager.safe_reconcileBeforeCancelling _) fun precedence _ _ ↦ ?_
  split_ifs
  · exact RuntimeManager.safe_markCancelled _ _ _
  refine Program.wp_try _ (hrun _ _) fun result _ _ _ ↦ ?_
  split
  · exact RuntimeManager.safe_concludeFailure _ _ _ _
  · exact safe_done _
  · refine safe_bind (safe_ask rfl fun _ _ ↦ id) fun lost _ _ ↦ ?_
    split_ifs
    · exact safe_done _
    refine Program.wp_try _ (RuntimeManager.safe_commitResult _ _ _) fun committed _ _ _ ↦ ?_
    split
    · exact safe_done _
    · exact RuntimeManager.safe_concludeFailure _ _ _ _

theorem emptyManager_deploys (deployment : Deployment) : emptyManager.Deploys deployment := by
  intro agentId agentVersion registration hregistration
  cases hregistration

/-- One event keeps the accounts if the attempts keep the protocol, and the world evolves. -/
theorem systemAccounted_nextWith
    (hattempt : ∀ worker claim world, Safe hasher deployment worker (attempt claim) world)
    (system : System) (label : Label) (hsystem : SystemAccounted hasher deployment system)
    (hfresh : FreshTokens system label) :
    SystemAccounted hasher deployment (system.nextWith hasher attempt label) ∧
      Evolves system.world (system.nextWith hasher attempt label).world := by
  have haccounted : Accounted deployment system.world := hsystem.1
  cases label with
  | claim reading ownerId duration =>
    show SystemAccounted hasher deployment (system.claimWith attempt reading ownerId duration) ∧
      Evolves system.world (system.claimWith attempt reading ownerId duration).world
    unfold System.claimWith
    split
    · next claim db hclaim =>
      have hcalm : Calm (fun _ _ ↦ False) system.world.db db :=
        calm_of_sameLedger (onlyRunTables_of_claimNextRun hclaim).1
      have hkept := hsystem.outside (haccounted.calm hcalm fun _ _ ↦ False.elim)
        (rely_of_calm hcalm)
      exact ⟨hkept.add (hattempt _ claim _), evolves_of_calm hcalm⟩
    · next db hclaim =>
      have hcalm : Calm (fun _ _ ↦ False) system.world.db db :=
        calm_of_sameLedger (onlyRunTables_of_claimNextRun hclaim).1
      exact ⟨hsystem.outside (haccounted.calm hcalm fun _ _ ↦ False.elim) (rely_of_calm hcalm),
        evolves_of_calm hcalm⟩
    · exact ⟨hsystem, .refl _⟩
  | work | crash | control | applyEffect =>
    exact systemAccounted_next (emptyManager_deploys deployment) system _ hsystem hfresh

theorem systemAccounted_attempts
    (hattempt : ∀ worker claim world, Safe hasher deployment worker (attempt claim) world)
    {labels : List Label}
    (hfresh : (attemptMachine hasher attempt).Admits FreshTokens System.init labels) :
    SystemAccounted hasher deployment ((attemptMachine hasher attempt).run System.init labels) :=
  (attemptMachine hasher attempt).invariant_run (SystemAccounted hasher deployment)
    (fun system label hsystem hlabel ↦
      (systemAccounted_nextWith hattempt system label hsystem hlabel).1)
    systemAccounted_init hfresh

end Accounts

end AgentRuntime.Execution
