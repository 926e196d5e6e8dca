import AgentRuntime.Execution.Manager

/-!
# Workers, providers and the stores as one system

Any number of workers claim Runs and execute them side by side over the shared database, while the
API, the heartbeats and the operators call the stores on their own. A `Label` is one event: a worker
performs its next operation with the given response, a worker crashes, a worker loop claims a Run
and starts an attempt, another process performs a control call, or a provider applies the effect of
a call it was given. `systemMachine` folds any list of such events.

A response fixes everything the operation draws from outside: clock and random texts, the answer of
a planner, a tool or a provider, and a storage exception raised before or after the transaction
commits. Besides the database, the world remembers every committed dispatch, every call of a
provider with what became of it, and how each runtime ended.
-/

set_option autoImplicit false
set_option relaxedAutoImplicit false

namespace AgentRuntime.Execution

open Library Store

/-- A dispatch that a worker committed: the `dispatch`-th of the action. -/
structure DispatchCommit where
  worker : Nat
  runId : String
  stepId : String
  dispatch : Nat
  deriving DecidableEq

/-- A call of `provider.execute`. `logged` is the length of the workflow log when the provider was
entered; `answer` is what the call returned or raised, once it did. -/
structure ProviderCall where
  worker : Nat
  providerName : String
  dispatch : Nat
  request : ExternalActionRequest
  logged : Nat
  applied : Bool
  answer : Option (Except Failure Json)

/-- The call raised `DefinitiveExternalActionError`. -/
def ProviderCall.isDefinitive (call : ProviderCall) : Bool :=
  match call.answer with
  | some (.error .definitive) => true
  | _ => false

/-- The database and what happened around it. -/
structure World where
  db : Database
  commits : List DispatchCommit
  calls : List ProviderCall
  tokens : List String
  exits : List (Nat × RuntimeExit)

/-- Nothing happened yet. -/
def World.empty : World := ⟨.empty, [], [], [], []⟩

/-- A storage exception around a transaction. -/
inductive StorageFault where
  | before (message : String)
  | after (message : String)

/-- What an operation draws from outside. -/
inductive Response where
  | store (reading : Reading) (fault : Option StorageFault)
  | planner (answer : Except Failure Json)
  | tool (answer : Except Failure ToolExecutionResult)
  | evaluation (answer : Except Failure FinishEvaluation)
  | provider (answer : Except Failure Json)
  | flag (value : Bool)
  | noted

/-- The result of a dispatching call that claimed a dispatch. -/
def claimedDispatch : (call : Call) → call.Reply →
    Option (String × String × ExternalActionDispatchResult)
  | .workflow (.beginExternalActionDispatch runId stepId _ _), reply =>
    let result : ExternalActionDispatchResult := reply
    if result.outcome = .claimed then some (runId, stepId, result) else none
  | .workflow (.retryExternalActionDispatch runId stepId _ _ _), reply =>
    let result : ExternalActionDispatchResult := reply
    if result.outcome = .retryClaimed then some (runId, stepId, result) else none
  | _, _ => none

/-- The world after a worker's call committed. -/
def World.record (world : World) (worker : Nat) (call : Call) (reply : call.Reply)
    (after : Database) : World :=
  match claimedDispatch call reply with
  | none => { world with db := after }
  | some (runId, stepId, result) =>
    { world with
      db := after
      commits := world.commits ++ [⟨worker, runId, stepId, result.action.dispatchCount⟩]
      tokens := world.tokens ++ result.dispatchToken.toList }

/-- A worker performs a store operation. -/
def World.performStore (hasher : Hasher) (world : World) (worker : Nat) (call : Call)
    (reading : Reading) (fault : Option StorageFault) : Except Failure call.Reply × World :=
  match fault with
  | some (.before message) => (.error (.storage message), world)
  | _ =>
    match call.perform hasher world.db reading with
    | .error error => (.error (.store error), world)
    | .ok (reply, after) =>
      match fault with
      | some (.after message) => (.error (.storage message), world.record worker call reply after)
      | _ => (.ok reply, world.record worker call reply after)

/-- This is the open call of the worker's dispatch. -/
def ProviderCall.isOpen (call : ProviderCall) (worker : Nat) (runId stepId : String)
    (dispatch : Nat) : Bool :=
  call.worker == worker && call.request.runId == runId && call.request.stepId == stepId &&
    call.dispatch == dispatch && call.answer.isNone

/-- A definitive failure may only be raised by a call that applied no effect. -/
def answerAllowed (call : ProviderCall) : Except Failure Json → Bool
  | .error .definitive => !call.applied
  | _ => true

/-- A worker performs an operation; nothing happens when the response does not fit. -/
def World.perform (hasher : Hasher) (world : World) (worker : Nat) :
    (op : Op) → Response → Option (Except Failure op.Answer × World)
  | .store call, .store reading fault => some (world.performStore hasher worker call reading fault)
  | .decide _, .planner answer => some (answer, world)
  | .executeTool .., .tool answer => some (answer, world)
  | .evaluateFinish .., .evaluation answer => some (answer, world)
  | .enterProvider providerName dispatch request, .noted =>
    some (.ok (),
      { world with
        calls := world.calls ++ [⟨worker, providerName, dispatch, request,
          world.db.workflowEvents.length, false, none⟩] })
  | .awaitProvider runId stepId dispatch, .provider answer =>
    let isOpen (call : ProviderCall) : Bool := call.isOpen worker runId stepId dispatch
    if world.calls.any isOpen &&
        world.calls.all fun call ↦ !isOpen call || answerAllowed call answer then
      some (answer,
        { world with
          calls := world.calls.map fun call ↦
            if isOpen call then { call with answer := some answer } else call })
    else none
  | .leaseLost, .flag value => some (.ok value, world)
  | .runtimeEnded exit, .noted =>
    some (.ok (), { world with exits := world.exits ++ [(worker, exit)] })
  | _, _ => none

/-- The provider applies the effect of its `index`-th call, unless it denied having done so. -/
def World.applyEffect (world : World) (index : Nat) : World :=
  { world with
    calls := world.calls.modify index fun call ↦
      if call.isDefinitive then call else { call with applied := true } }

/-- The calls that other processes than the workers make: submission, cancellation, heartbeats,
shutdown, operators and readers. -/
def isControlCall : Call → Bool
  | .run (.createRun _) | .run (.createRunWithEvent ..) | .run (.renewRunLease ..)
  | .run (.expireRunLease ..) | .run (.appendControlPlaneEvent ..)
  | .run .finalizeNextQueuedCancellation | .run (.requestCancelAtomically ..)
  | .run (.applyQuarantineResolution ..) | .run (.planQuarantineResolution ..)
  | .run (.verifyQuarantineResolution _) | .run (.getRunInternal _)
  | .run (.getRunForTenant ..) | .run (.getRunByClientRequestId ..) | .run (.listEvents ..)
  | .run (.listEventsForTenant ..) | .run (.loadThreadStateSnapshot ..) => true
  | .run _ => false
  | .workflow _ => false
  | .memory _ => true

/-- The workers with what is left of their programs, and the claim each started from. -/
structure System where
  world : World
  workers : Nat → Option (Manager Unit)
  claims : List RunLeaseClaim

/-- One event. -/
inductive Label where
  | work (worker : Nat) (response : Response)
  | crash (worker : Nat)
  | claim (reading : Reading) (ownerId : String) (leaseDurationSeconds : Int)
  | control (reading : Reading) (call : Call)
  | applyEffect (index : Nat)

namespace System

variable (hasher : Hasher) (manager : RuntimeManager)

/-- No Run was submitted and no worker started. -/
def init : System := ⟨.empty, fun _ ↦ none, []⟩

/-- The system over another database. -/
def withDatabase (system : System) (db : Database) : System :=
  { system with world := { system.world with db := db } }

/-- A worker performs its next operation. -/
def work (system : System) (worker : Nat) (response : Response) : System :=
  match system.workers worker with
  | some (.call op _ next) =>
    match system.world.perform hasher worker op response with
    | some (answer, world) =>
      { system with
        world := world
        workers := Function.update system.workers worker (some (next answer)) }
    | none => system
  | _ => system

/-- A worker loop claims the next Run; the attempt's worker is numbered by its claim. -/
def claim (system : System) (reading : Reading) (ownerId : String)
    (leaseDurationSeconds : Int) : System :=
  match claimNextRun system.world.db reading ownerId leaseDurationSeconds
      (some reconciliationPendingCode) with
  | .ok (some claim, after) =>
    { world := { system.world with db := after }
      workers := Function.update system.workers system.claims.length
        (some (manager.executeOwnedRun claim))
      claims := system.claims ++ [claim] }
  | .ok (none, after) => system.withDatabase after
  | .error _ => system

/-- The system after one event. -/
def next (system : System) : Label → System
  | .work worker response => system.work hasher worker response
  | .crash worker =>
    { system with workers := Function.update system.workers worker none }
  | .claim reading ownerId duration => system.claim manager reading ownerId duration
  | .control reading call =>
    if isControlCall call then
      system.withDatabase (Request.apply hasher system.world.db ⟨reading, call⟩)
    else system
  | .applyEffect index => { system with world := system.world.applyEffect index }

end System

/-- The system, driven by events in any order. -/
def systemMachine (hasher : Hasher) (manager : RuntimeManager) : Machine System Label where
  init := System.init
  next := System.next hasher manager

/-- `uuid4` never repeats the text of an earlier dispatch token. -/
def FreshTokens (system : System) : Label → Prop
  | .work _ (.store reading _) => "dispatch_" ++ reading.uuid 0 ∉ system.world.tokens
  | _ => True

instance FreshTokens.decidable (system : System) :
    (label : Label) → Decidable (FreshTokens system label)
  | .work _ (.store reading _) =>
    inferInstanceAs (Decidable ("dispatch_" ++ reading.uuid 0 ∉ system.world.tokens))
  | .work _ (.planner _) | .work _ (.tool _) | .work _ (.evaluation _) | .work _ (.provider _)
  | .work _ (.flag _) | .work _ .noted | .crash _ | .claim .. | .control .. | .applyEffect _ =>
    isTrue trivial

/-! ### A sample server -/

/-- A provider that honours idempotency keys. -/
def sampleProvider : ExternalActionProvider := ⟨"acct", true⟩

/-- A tool that writes through the provider `hold`. -/
def sampleTool : ToolSpec where
  name := "create_hold"
  effect := .externalWrite
  retryMode := .providerIdempotent
  providerName := some "hold"
  inputModel := some
  outputModel := some fun _ value ↦ some value
  runtimeInputGate := none

def sampleLoop : DynamicToolLoop where
  toolRegistry := fun name ↦ if name = "create_hold" then some sampleTool else none
  toolDescriptors := []
  dispatcher := some fun name ↦ if name = "hold" then some sampleProvider else none
  workflowType := "dynamic_travel"
  maxToolCalls := 4
  maxToolCalls_pos := by decide
  maxDispatches := 2
  sha256 := fun _ ↦ "h"
  rounds := 5

/-- A runtime whose state stays as it is and whose message is the loop's. -/
def sampleRegistration : RuntimeRegistration where
  domainId := "travel"
  schemaVersion := "1"
  parseState := some
  parseInput := .ok
  referencedRunIds := fun _ ↦ []
  initialState := fun threadId ↦ { sampleState with threadId := threadId }
  prepare := fun state input ↦ .ok (input, state.fields)
  conclude := fun state _ result ↦ .ok ⟨result.message, state, result.validationErrors⟩
  memory := none
  loop := sampleLoop

def sampleManager : RuntimeManager :=
  ⟨fun _ _ ↦ some sampleRegistration, fun failure ↦ failure.text⟩

/-- The planner's decision to call the tool. -/
def sampleDecision : Json :=
  .obj [("decision_type", .str "CALL_TOOL"), ("tool_name", .str "create_hold"),
    ("arguments", .obj [("nights", .int 1)]), ("reason", .str "requested")]

/-- A Run whose subject may execute external actions. -/
def sampleWrite : RunRecord :=
  submittedRun "run_1" "acme" "trip" "travel" "1" "travel" "1" [("user_message", .str "hello")]
    none (some ⟨"acme", "ada", ["tools:execute", "external-actions:execute"]⟩) none "09:00" "09:00"

/-- A worker's store operation that draws a text and does not fail. -/
def storeStep (worker : Nat) (text : String) : Label :=
  .work worker (.store (sampleReading 10 text) none)

/-- Submission, claim and the operations of the first attempt up to its first dispatch, whose token
is `dispatch_a`. -/
def sampleDispatch : List Label :=
  [.control (sampleReading 0 "s") (.run (.createRunWithEvent sampleWrite "run.queued" [])),
    .claim (sampleReading 1 "l") "w" 30, .work 0 (.flag false)] ++
  List.replicate 7 (storeStep 0 "a") ++ [.work 0 (.planner (.ok sampleDecision))] ++
  List.replicate 16 (storeStep 0 "a")

end AgentRuntime.Execution
