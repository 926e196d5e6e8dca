import AgentRuntime.Execution.System
import AgentRuntime.Release.Workflow
import AgentRuntime.Release.StepLedger

/-!
# Calls of `run` for one Run

Any number of calls of `run` for one `run_id` work on the shared database. A call starts, performs
its next operation with a response, or is killed between two of them; other processes use the stores
for other Runs, leases and memories in between. `callMachine` folds any list of such events.

The world remembers, in their order, every entry of a tool and every failure that a call recorded
for a tool run it had classified as not transient; a call keeps what its last tool run returned.
-/

set_option autoImplicit false
set_option relaxedAutoImplicit false

namespace AgentRuntime.Release

open Library Store Execution

/-- What is remembered of the calls. -/
inductive Happening where
  | entered (stepId : String) (attempt : Nat)
  | failedPermanently (stepId : String)
  deriving DecidableEq

/-- The database and what happened around it. -/
structure ReleaseWorld where
  db : Database
  history : List Happening
  answers : Nat → Option ToolRun

/-- What an operation draws from outside: clock and random texts with a storage exception before or
after the commit, or what a tool returned, where an exception of the sandbox has a type and a
text. -/
inductive CallResponse where
  | store (reading : Reading) (fault : Option StorageFault)
  | tool (answer : Except (String × String) ToolRun)

/-- The commit of `fail_step` for a tool run that the call classified as not transient. -/
def permanentFailure (workflow : ReleaseValidationWorkflow) (runId : String)
    (answer : Option ToolRun) : WorkflowCall → List Happening
  | .failStep failedRun stepId _ _ _ =>
    match answer with
    | some execution =>
      if failedRun = runId ∧ workflow.isTransientFailure execution = false then
        [.failedPermanently stepId]
      else []
    | none => []
  | _ => []

namespace ReleaseWorld

variable (workflow : ReleaseValidationWorkflow) (runId : String)

/-- The world after a call's operation committed. -/
def record (world : ReleaseWorld) (caller : Nat) (call : WorkflowCall) (after : Database) :
    ReleaseWorld :=
  { world with
    db := after
    history := world.history ++ permanentFailure workflow runId (world.answers caller) call }

/-- A call performs an operation of the workflow store. -/
def performStore (world : ReleaseWorld) (caller : Nat) (call : WorkflowCall) (reading : Reading)
    (fault : Option StorageFault) : Except ReleaseFailure call.Reply × ReleaseWorld :=
  match fault with
  | some (.before message) => (.error (.storage message), world)
  | _ =>
    match call.perform world.db reading with
    | .error error => (.error (.store error), world)
    | .ok (reply, after) =>
      match fault with
      | some (.after message) =>
        (.error (.storage message), world.record workflow runId caller call after)
      | _ => (.ok reply, world.record workflow runId caller call after)

/-- The world after a tool was entered. -/
def enter (world : ReleaseWorld) (caller : Nat) (stepId : String) (attempt : Nat)
    (answer : Option ToolRun) : ReleaseWorld :=
  { world with
    history := world.history ++ [.entered stepId attempt]
    answers := Function.update world.answers caller answer }

/-- A call performs an operation; nothing happens when the response does not fit. -/
def perform (world : ReleaseWorld) (caller : Nat) :
    (op : ReleaseOp) → CallResponse → Option (Except ReleaseFailure op.Answer × ReleaseWorld)
  | .store call, .store reading fault =>
    some (world.performStore workflow runId caller call reading fault)
  | .executeTool stepId attempt _ _, .tool (.ok execution) =>
    some (.ok execution, world.enter caller stepId attempt (some execution))
  | .executeTool stepId attempt _ _, .tool (.error (typeName, message)) =>
    some (.error (.other typeName message), world.enter caller stepId attempt none)
  | _, _ => none

end ReleaseWorld

/-- The calls with what is left of their programs; a call that ended keeps its result. -/
structure CallSystem where
  world : ReleaseWorld
  calls : Nat → Option (ReleaseProgram ReleaseValidationResult)

/-- The call has operations left. -/
def isLive : Option (ReleaseProgram ReleaseValidationResult) → Bool
  | some (.call ..) => true
  | _ => false

/-- One event. -/
inductive CallLabel where
  | start (caller : Nat) (arguments : CallArguments)
  | work (caller : Nat) (response : CallResponse)
  | kill (caller : Nat)
  | other (request : Request)

/-- The request is not about the ledger of the Run. -/
def isForeign (runId : String) (request : Request) : Bool :=
  match request.call with
  | .workflow call => decide (call.subject ≠ some runId)
  | _ => true

namespace CallSystem

variable (hasher : Hasher) (workflow : ReleaseValidationWorkflow) (runId : String)

/-- A call performs its next operation. -/
def work (system : CallSystem) (caller : Nat) (response : CallResponse) : CallSystem :=
  match system.calls caller with
  | some (.call op _ next) =>
    match system.world.perform workflow runId caller op response with
    | some (answer, world) =>
      ⟨world, Function.update system.calls caller (some (next answer))⟩
    | none => system
  | _ => system

/-- The system after one event. -/
def next (system : CallSystem) : CallLabel → CallSystem
  | .start caller arguments =>
    if isLive (system.calls caller) then system
    else
      { system with
        calls := Function.update system.calls caller (some (workflow.run runId arguments)) }
  | .work caller response => system.work workflow runId caller response
  | .kill caller => { system with calls := Function.update system.calls caller none }
  | .other request =>
    if isForeign runId request then
      { system with world := { system.world with db := request.apply hasher system.world.db } }
    else system

/-- No call was made yet over the database. -/
def initial (db : Database) : CallSystem := ⟨⟨db, [], fun _ ↦ none⟩, fun _ ↦ none⟩

end CallSystem

/-- Calls over a database, driven by events in any order. -/
def callMachine (hasher : Hasher) (workflow : ReleaseValidationWorkflow) (runId : String)
    (db : Database) : Machine CallSystem CallLabel where
  init := .initial db
  next := CallSystem.next hasher workflow runId

/-- A call starts only when no other is live. -/
def OneByOne (system : CallSystem) : CallLabel → Prop
  | .start _ _ => ∀ caller, isLive (system.calls caller) = false
  | _ => True

/-! ### The steps of one call -/

/-- A call performs an operation with some response. -/
def Answers (workflow : ReleaseValidationWorkflow) (runId : String) (caller : Nat)
    (world : ReleaseWorld) (op : ReleaseOp) (answer : Except ReleaseFailure op.Answer)
    (after : ReleaseWorld) : Prop :=
  ∃ response, world.perform workflow runId caller op response = some (answer, after)

variable {workflow : ReleaseValidationWorkflow} {runId : String} {caller : Nat}
  {world after : ReleaseWorld}

/-- What can happen at an operation of the store. -/
theorem answers_store {call : WorkflowCall} {answer : Except ReleaseFailure call.Reply}
    (hanswers : Answers workflow runId caller world (.store call) answer after) :
    (∃ failure, answer = .error failure ∧ after = world) ∨
      ∃ reading reply db, call.perform world.db reading = .ok (reply, db) ∧
        after = world.record workflow runId caller call db ∧
        (answer = .ok reply ∨ ∃ message, answer = .error (.storage message)) := by
  obtain ⟨response, hperform⟩ := hanswers
  cases response with
  | tool answer => cases hperform
  | store reading fault =>
    have hstore : world.performStore workflow runId caller call reading fault = (answer, after) :=
      Option.some.inj hperform
    unfold ReleaseWorld.performStore at hstore
    split at hstore
    · obtain ⟨rfl, rfl⟩ := Prod.mk.inj hstore
      exact .inl ⟨_, rfl, rfl⟩
    · split at hstore
      · obtain ⟨rfl, rfl⟩ := Prod.mk.inj hstore
        exact .inl ⟨_, rfl, rfl⟩
      · next reply db hok =>
        split at hstore
        · obtain ⟨rfl, rfl⟩ := Prod.mk.inj hstore
          exact .inr ⟨reading, reply, db, hok, rfl, .inr ⟨_, rfl⟩⟩
        · obtain ⟨rfl, rfl⟩ := Prod.mk.inj hstore
          exact .inr ⟨reading, reply, db, hok, rfl, .inl rfl⟩

/-- What can happen when a tool is entered. -/
theorem answers_executeTool {stepId toolName : String} {attempt : Nat} {arguments : Payload}
    {answer : Except ReleaseFailure ToolRun}
    (hanswers : Answers workflow runId caller world
      (.executeTool stepId attempt toolName arguments) answer after) :
    ∃ kept, after = world.enter caller stepId attempt kept ∧
      ((∃ execution, kept = some execution ∧ answer = .ok execution) ∨
        ∃ typeName message, kept = none ∧ answer = .error (.other typeName message)) := by
  obtain ⟨response, hperform⟩ := hanswers
  cases response with
  | store reading fault => cases hperform
  | tool response =>
    cases response with
    | ok execution =>
      obtain ⟨rfl, rfl⟩ := Prod.mk.inj (Option.some.inj hperform)
      exact ⟨_, rfl, .inl ⟨_, rfl, rfl⟩⟩
    | error failure =>
      obtain ⟨rfl, rfl⟩ := Prod.mk.inj (Option.some.inj hperform)
      exact ⟨_, rfl, .inr ⟨_, _, rfl, rfl⟩⟩

end AgentRuntime.Release
