import AgentRuntime.Execution.Manager

/-!
# `RuntimeManager._worker_loop`

A worker polls the Run store, claims a Run, executes it and cleans up, until the manager stops
claiming. The program of the loop notes for each operation where in the source it stands: the
polling block, the relinquishing of a refused claim, the checks before the `try` of
`_execute_owned_run`, its body, its `except` blocks, or the cleanup of `_execute_claim`.
`forget_executeOwnedRun` says that the places are all that is added to the attempt.
-/

set_option autoImplicit false
set_option relaxedAutoImplicit false

namespace AgentRuntime.Execution

open Library Store

/-! ### Errors of the database layer -/

/-- What the classification of errors reads of one exception of a chain. -/
structure RaisedException where
  isSqliteError : Bool
  sqlstate : Option String
  moduleName : String
  className : String

/-- The SQLSTATEs that are retried besides class 08. -/
def retryableStates : List String := ["40001", "40P01", "55P03", "57014", "57P01"]

/-- The test of `is_run_store_retryable_error` on one exception. -/
def RaisedException.isRetryable (current : RaisedException) : Bool :=
  current.isSqliteError ||
    match current.sqlstate with
    | some state => "08".toList.isPrefixOf state.toList || retryableStates.contains state
    | none => "psycopg".toList.isPrefixOf current.moduleName.toList &&
        ["OperationalError", "InterfaceError"].contains current.className

/-- `is_run_store_retryable_error`, on the chain of explicit causes. -/
def isRunStoreRetryableError (chain : List RaisedException) : Bool :=
  chain.any RaisedException.isRetryable

/-- The chain of an exception that a store operation raises. `driver` is the chain of an exception
of the database driver; a violated constraint is a `sqlite3.IntegrityError`, and the exceptions that
the stores raise themselves come from neither driver. -/
def Failure.exceptionChain (driver : String → List RaisedException) :
    Failure → List RaisedException
  | .storage message => driver message
  | .store (.integrityError _) => [⟨true, none, "sqlite3", "IntegrityError"⟩]
  | failure => [⟨false, none, "runtime_service", failure.typeName⟩]

/-- The exception that a rejected state raises. -/
def parseError : ParseFailure → Failure
  | .unknownSchema domainId schemaVersion =>
    .store (.keyError ("Unknown state schema: " ++ domainId ++ ":" ++ schemaVersion))
  | .invalid => .validation "state"

/-- The polling block does not retry it. -/
theorem parseError_not_retryable (driver : String → List RaisedException) (failure : ParseFailure) :
    isRunStoreRetryableError (Failure.exceptionChain driver (parseError failure)) = false := by
  cases failure with
  | unknownSchema domainId schemaVersion =>
    show isRunStoreRetryableError [⟨false, none, "runtime_service", "KeyError"⟩] = false
    decide
  | invalid =>
    show isRunStoreRetryableError [⟨false, none, "runtime_service", "ValidationError"⟩] = false
    decide

/-! ### Places and faults -/

/-- Where an operation stands in the source. -/
inductive Place where
  | polling
  | release
  | check
  | body
  | handler
  | cleanup
  deriving DecidableEq

/-- What a store operation may raise for reasons of its own: an error that
`is_run_store_retryable_error` accepts, or the rejection of a stored state. -/
inductive Fault where
  | retryable
  | unparsed
  deriving DecidableEq

/-- A handler for the fault encloses the place. The polling block retries, and raises again what it
cannot retry; the other handlers are for `Exception`. -/
def Place.handles : Place → Fault → Bool
  | release, _ | body, _ | cleanup, _ => true
  | polling, fault => fault == .retryable
  | check, _ | handler, _ => false

/-- The operations of a worker. -/
inductive WorkerOp where
  /-- An operation of the stores or of an attempt, at its place. -/
  | placed (place : Place) (op : Op)
  /-- `_stop_claiming.is_set()`. -/
  | stopClaiming
  /-- `_renewals_disabled.is_set()`. -/
  | renewalsDisabled
  /-- The model follows the loop no further. -/
  | unfollowed

/-- What each operation returns. -/
def WorkerOp.Answer : WorkerOp → Type
  | .placed _ op => op.Answer
  | .stopClaiming | .renewalsDisabled => Bool
  | .unfollowed => Empty

/-- Everything a worker does. -/
def WorkerOp.all : WorkerOp → Bool := fun _ ↦ true

abbrev Worker : Type → Type := Program WorkerOp.Answer Failure WorkerOp.all

/-- The program with all its operations at one place. -/
def located {α : Type} (place : Place) : Manager α → Worker α
  | .done value => .done value
  | .raise failure => .raise failure
  | .call op _ next => .call (.placed place op) rfl fun answer ↦ located place (next answer)

/-- The program without the places. -/
def forget {α : Type} : Worker α → Manager α
  | .done value => .done value
  | .raise failure => .raise failure
  | .call (.placed _ op) _ next => .call op rfl fun answer ↦ forget (next answer)
  | .call .stopClaiming _ _ | .call .renewalsDisabled _ _ | .call .unfollowed _ _ =>
    (Program.ask Op.unfollowed rfl).bind Empty.elim

section Forget

variable {α β : Type}

theorem forget_located (place : Place) (program : Manager α) :
    forget (located place program) = program := by
  induction program with
  | done value => rfl
  | raise failure => rfl
  | call op hscope next ih =>
    unfold located forget
    exact congrArg (Program.call op hscope) (funext ih)

theorem forget_bind (program : Worker α) (rest : α → Worker β) :
    forget (program.bind rest) = (forget program).bind fun value ↦ forget (rest value) := by
  induction program with
  | done value => rfl
  | raise failure => rfl
  | call op hscope next ih =>
    cases op with
    | placed place op => exact congrArg (Program.call op rfl) (funext ih)
    | stopClaiming | renewalsDisabled | unfollowed =>
      exact congrArg (Program.call Op.unfollowed rfl) (funext fun answer ↦ by
        cases answer with
        | ok value => exact value.elim
        | error failure => rfl)

theorem forget_attempt (place : Place) (program : Manager α) :
    forget (Program.attempt (located place program)) = Program.attempt program := by
  induction program with
  | done value => rfl
  | raise failure => rfl
  | call op hscope next ih => exact congrArg (Program.call op hscope) (funext ih)

end Forget

/-! ### The loop -/

namespace RunStore

def finalizeNextQueuedCancellation : Manager (Option RunRecord) :=
  runCall .finalizeNextQueuedCancellation rfl

def claimNextRun (ownerId : String) (leaseDurationSeconds : Int)
    (reconciliationPendingCode : Option String) : Manager (Option RunLeaseClaim) :=
  runCall (.claimNextRun ownerId leaseDurationSeconds reconciliationPendingCode) rfl

def expireRunLease (runId leaseToken : String) : Manager Bool :=
  runCall (.expireRunLease runId leaseToken) rfl

end RunStore

/-- What the constructor of the manager accepts for its workers, and what it binds to the store:
`states` is the registry that the store parses states with. -/
structure WorkerSettings where
  ownerId : String
  leaseDurationSeconds : Int
  driver : String → List RaisedException
  states : StateRegistry
  named : ownerId.isEmpty = false
  lasting : 0 < leaseDurationSeconds

/-- `_stop_claiming.is_set()`. -/
def stopClaiming : Worker Bool := Program.ask WorkerOp.stopClaiming rfl

/-- `_renewals_disabled.is_set()`. -/
def renewalsDisabled : Worker Bool := Program.ask WorkerOp.renewalsDisabled rfl

/-- How the polling block of an iteration ends. -/
inductive Polled where
  | cancelled
  | stopping
  | claimed (claim : Option RunLeaseClaim)

/-- The `try` block of `_worker_loop`. -/
def poll (settings : WorkerSettings) : Worker Polled := do
  match ← located .polling RunStore.finalizeNextQueuedCancellation with
  | some _ => return .cancelled
  | none =>
    if ← stopClaiming then return .stopping
    else
      let claim ← located .polling (RunStore.claimNextRun settings.ownerId
        settings.leaseDurationSeconds (some reconciliationPendingCode))
      return .claimed claim

namespace RuntimeManager

variable (manager : RuntimeManager)

/-- `_execute_owned_run`, with the place of each operation. -/
def executeOwnedRunLocated (claim : RunLeaseClaim) : Worker Unit := do
  if ← located .check leaseLost then return
  let precedence ← located .check (reconcileBeforeCancelling claim)
  if claim.run.cancelRequested && !precedence then
    located .check (markCancelled claim.run "cancelled_after_start_claim" claim.leaseToken)
  else
    match ← Program.attempt (located .body (manager.executeRun claim precedence)) with
    | .error failure =>
      located .handler (manager.concludeFailure claim claim.run precedence failure)
    | .ok none => return
    | .ok (some (response, state)) =>
      if ← located .body leaseLost then return
      match ← Program.attempt (located .body (commitResult claim response state)) with
      | .ok () => return
      | .error failure =>
        located .handler (manager.concludeFailure claim (withResult claim.run response state)
          precedence failure)

/-- `_execute_claim`. A claim that shutdown no longer admits is relinquished; otherwise the attempt
is followed by a best-effort read, and what it raised goes on. -/
def executeClaim (claim : RunLeaseClaim) : Worker Unit := do
  if ← renewalsDisabled then
    discard <| Program.attempt
      (located .release (RunStore.expireRunLease claim.run.runId claim.leaseToken))
  else
    let ended ← Program.attempt (manager.executeOwnedRunLocated claim)
    discard <| Program.attempt (located .cleanup (RunStore.getRunInternal claim.run.runId))
    match ended with
    | .ok () => return
    | .error failure => throw failure

/-- `_worker_loop`, followed for a number of iterations. -/
def workerLoop (settings : WorkerSettings) : Nat → Worker Unit
  | 0 => (Program.ask WorkerOp.unfollowed rfl).bind Empty.elim
  | rounds + 1 => do
    if ← stopClaiming then return
    match ← Program.attempt (poll settings) with
    | .error failure =>
      if isRunStoreRetryableError (failure.exceptionChain settings.driver) then
        workerLoop settings rounds
      else throw failure
    | .ok .stopping => return
    | .ok (.claimed (some claim)) =>
      manager.executeClaim claim
      workerLoop settings rounds
    | .ok .cancelled | .ok (.claimed none) => workerLoop settings rounds

/-- The attempt of the loop is the attempt of the manager. -/
theorem forget_executeOwnedRun (claim : RunLeaseClaim) :
    forget (manager.executeOwnedRunLocated claim) = manager.executeOwnedRun claim := by
  unfold executeOwnedRunLocated executeOwnedRun
  simp only [Program.bind_eq_bind, Program.pure_eq_done, forget_bind, forget_located]
  congr 1
  funext lost
  cases lost with
  | true => rfl
  | false =>
    simp only [Bool.false_eq_true, if_false, forget_bind, forget_located]
    congr 1
    funext precedence
    by_cases hcancel : (claim.run.cancelRequested && !precedence) = true
    · simp only [if_pos hcancel, forget_located]
    · simp only [if_neg hcancel, forget_bind, forget_attempt]
      congr 1
      funext result
      rcases result with failure | ended
      · exact forget_located _ _
      cases ended with
      | none => rfl
      | some pair =>
        obtain ⟨response, state⟩ := pair
        simp only [forget_bind, forget_located]
        congr 1
        funext late
        cases late with
        | true => rfl
        | false =>
          simp only [Bool.false_eq_true, if_false, forget_bind, forget_attempt]
          congr 1
          funext committed
          cases committed with
          | ok value => rfl
          | error failure => exact forget_located _ _

end RuntimeManager

end AgentRuntime.Execution
