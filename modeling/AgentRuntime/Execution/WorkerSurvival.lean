import AgentRuntime.Execution.WorkerLoop
import AgentRuntime.Execution.SuccessRestoration
import AgentRuntime.Store.ThreadSerialization

/-!
# Workers under storage faults

Any store operation of a worker may raise an error that `is_run_store_retryable_error` accepts,
before or after its transaction commits, any number of times, and none returns a row whose stored
state the registry rejects. The body of `_execute_owned_run` and the two best-effort calls of
`_execute_claim` are each under a handler, and the polling block retries what it may. The checks
before the body and the operations of its `except` blocks are under no handler: the exception passes
`_execute_claim` and ends the loop, as a rejected state does that the polling block meets.

`worker_survives_iff` is exact: a run of the loop ends, through `_stop_claiming`, without an
exception if and only if no fault struck a place that does not handle it.
-/

set_option autoImplicit false
set_option relaxedAutoImplicit false

namespace AgentRuntime.Execution

open Library Store

/-! ### Faults of a store operation -/

/-- The state that an operation parses from the row it returns. -/
def parsedState : (call : Call) → call.Reply → Option RuntimeState
  | .run (.claimNextRun ..), reply =>
    let claim : Option RunLeaseClaim := reply
    claim.bind fun claim ↦ claim.run.state
  | .run .finalizeNextQueuedCancellation, reply =>
    let found : Option RunRecord := reply
    found.bind RunRecord.state
  | .run (.getRunInternal _), reply =>
    let found : Option RunRecord := reply
    found.bind RunRecord.state
  | .run (.getRunForTenant ..), reply =>
    let found : Option RunRecord := reply
    found.bind RunRecord.state
  | .run (.getRunByClientRequestId ..), reply =>
    let found : Option RunRecord := reply
    found.bind RunRecord.state
  | .run (.requestCancelAtomically ..), reply =>
    let run : RunRecord := reply
    run.state
  | .run (.loadThreadStateSnapshot ..), reply =>
    let snapshot : ThreadStateSnapshot := reply
    snapshot.state
  | _, _ => none

/-- The database after a row was rejected: the transaction is rolled back, except that the row of a
requested cancellation is read back after the commit. -/
def afterRejection (before after : Database) : Call → Database
  | .run (.requestCancelAtomically ..) => after
  | _ => before

/-- A worker performs a store operation: it answers, raises an error of its own, or meets a fault of
the driver or a row that the registry rejects. -/
inductive WorkerPerforms (hasher : Hasher) (settings : WorkerSettings) (db : Database)
    (call : Call) : Except Failure call.Reply → Database → Option Fault → Prop
  | unreached (message : String)
    (hretryable : isRunStoreRetryableError (settings.driver message) = true) :
    WorkerPerforms hasher settings db call (.error (.storage message)) db (some .retryable)
  | raised {reading : Reading} {error : StoreError}
    (hperform : call.perform hasher db reading = .error error) :
    WorkerPerforms hasher settings db call (.error (.store error)) db
      (if isRunStoreRetryableError (Failure.exceptionChain settings.driver (.store error)) then
        some .retryable
      else none)
  | rejected {reading : Reading} {reply : call.Reply} {after : Database} {failure : ParseFailure}
    (hperform : call.perform hasher db reading = .ok (reply, after))
    (hrejected : (parsedState call reply).bind settings.states.rejection = some failure) :
    WorkerPerforms hasher settings db call (.error (parseError failure))
      (afterRejection db after call) (some .unparsed)
  | lost {reading : Reading} {reply : call.Reply} {after : Database} (message : String)
    (hretryable : isRunStoreRetryableError (settings.driver message) = true)
    (hperform : call.perform hasher db reading = .ok (reply, after))
    (hparsed : (parsedState call reply).bind settings.states.rejection = none) :
    WorkerPerforms hasher settings db call (.error (.storage message)) after (some .retryable)
  | answered {reading : Reading} {reply : call.Reply} {after : Database}
    (hperform : call.perform hasher db reading = .ok (reply, after))
    (hparsed : (parsedState call reply).bind settings.states.rejection = none) :
    WorkerPerforms hasher settings db call (.ok reply) after none

/-- Whatever the worker is told, the database is left as it was or as the operation leaves it. -/
theorem WorkerPerforms.run {hasher : Hasher} {settings : WorkerSettings} {db after : Database}
    {call : Call} {answer : Except Failure call.Reply} {fault : Option Fault}
    (hperforms : WorkerPerforms hasher settings db call answer after fault) :
    ∃ requests, after = (storeMachine hasher).run db requests := by
  have hcommitted (reading : Reading) (reply : call.Reply) (committed : Database)
      (hperform : call.perform hasher db reading = .ok (reply, committed)) :
      ∃ requests, committed = (storeMachine hasher).run db requests :=
    performs_run (.answered hperform)
  cases hperforms with
  | unreached | raised => exact ⟨[], rfl⟩
  | rejected hperform =>
    unfold afterRejection
    split
    · exact hcommitted _ _ _ hperform
    · exact ⟨[], rfl⟩
  | lost message hretryable hperform => exact hcommitted _ _ _ hperform
  | answered hperform => exact hcommitted _ _ _ hperform

/-! ### A worker among others -/

/-- The stores, the stop event, and the places that faults struck so far. -/
structure WorkerWorld where
  db : Database
  stopping : Bool
  struck : List (Place × Fault)

/-- One operation of a worker. Other requests may come before a store operation; planners, tools and
providers answer anything. -/
def workerAnswers (hasher : Hasher) (settings : WorkerSettings) (world : WorkerWorld) :
    (op : WorkerOp) → Except Failure op.Answer → WorkerWorld → Prop
  | .placed place (.store call), answer, after =>
    ∃ others fault,
      WorkerPerforms hasher settings ((storeMachine hasher).run world.db others) call answer
        after.db fault ∧
      after.stopping = world.stopping ∧
      after.struck = world.struck ++ (fault.map (Prod.mk place)).toList
  | .placed _ .leaseLost, answer, after => (∃ lost, answer = .ok lost) ∧ after = world
  | .placed _ (.runtimeEnded _), answer, after => answer = .ok () ∧ after = world
  | .placed _ .unfollowed, _, _ => False
  | .placed _ _, _, after => after = world
  | .stopClaiming, answer, after =>
    answer = .ok after.stopping ∧ (world.stopping = true → after.stopping = true) ∧
      after.db = world.db ∧ after.struck = world.struck
  | .renewalsDisabled, answer, after => (∃ disabled, answer = .ok disabled) ∧ after = world
  | .unfollowed, _, _ => False

/-- Every fault struck a place that handles it. -/
def Sheltered (world : WorkerWorld) : Prop :=
  ∀ strike ∈ world.struck, strike.1.handles strike.2 = true

section Worlds

variable {hasher : Hasher} {settings : WorkerSettings} {world after : WorkerWorld}

/-- What a step strikes comes on top, and a placed operation strikes its own place. -/
theorem struck_of_placed {place : Place} {op : Op} {answer : Except Failure op.Answer}
    (hstep : workerAnswers hasher settings world (.placed place op) answer after) :
    ∃ fault : Option Fault, after.struck = world.struck ++ (fault.map (Prod.mk place)).toList := by
  cases op with
  | store call =>
    obtain ⟨others, fault, -, -, hstruck⟩ := hstep
    exact ⟨fault, hstruck⟩
  | leaseLost | runtimeEnded => exact ⟨none, by rw [hstep.2]; exact (List.append_nil _).symm⟩
  | unfollowed => exact hstep.elim
  | decide | executeTool | evaluateFinish | enterProvider | awaitProvider =>
    have hsame : after = world := hstep
    exact ⟨none, by rw [hsame]; exact (List.append_nil _).symm⟩

/-- A place that was struck stays struck. -/
theorem not_sheltered_step (world : WorkerWorld) (op : WorkerOp) (answer : Except Failure op.Answer)
    (after : WorkerWorld) (hbad : ¬ Sheltered world)
    (hstep : workerAnswers hasher settings world op answer after) : ¬ Sheltered after := by
  intro hsheltered
  refine hbad fun strike hmem ↦ hsheltered strike ?_
  cases op with
  | placed other op =>
    obtain ⟨fault, hstruck⟩ := struck_of_placed hstep
    rw [hstruck]
    exact List.mem_append_left _ hmem
  | stopClaiming =>
    rw [hstep.2.2.2]
    exact hmem
  | renewalsDisabled =>
    rw [hstep.2]
    exact hmem
  | unfollowed => exact hstep.elim

/-- A fault that strikes a place which handles it changes nothing. -/
theorem Sheltered.strike (hsheltered : Sheltered world) {place : Place} {fault : Option Fault}
    (hhandled : ∀ struck, fault = some struck → place.handles struck = true)
    (hstruck : after.struck = world.struck ++ (fault.map (Prod.mk place)).toList) :
    Sheltered after := by
  intro strike hmem
  rw [hstruck, List.mem_append, Option.mem_toList, Option.map_eq_some_iff] at hmem
  rcases hmem with hmem | ⟨struck, hfault, rfl⟩
  · exact hsheltered strike hmem
  · exact hhandled struck hfault

/-- One that strikes another place is not made good. -/
theorem not_sheltered_strike {place : Place} {fault : Fault}
    (hunhandled : place.handles fault = false)
    (hstruck : after.struck = world.struck ++ [(place, fault)]) : ¬ Sheltered after := by
  intro hsheltered
  have hhandled := hsheltered (place, fault) (by simp [hstruck])
  rw [hunhandled] at hhandled
  cases hhandled

/-- Under a handler for every exception nothing is lost. -/
theorem sheltered_located {α : Type} {place : Place}
    (hcovered : ∀ fault, place.handles fault = true) {program : Manager α}
    {result : Except Failure α}
    (hruns : (located place program).Runs (workerAnswers hasher settings) world result after)
    (hsheltered : Sheltered world) : Sheltered after := by
  induction program generalizing world with
  | done value => exact hruns.2 ▸ hsheltered
  | raise failure => exact hruns.2 ▸ hsheltered
  | call op hscope next ih =>
    obtain ⟨answer, middle, hstep, hlater⟩ := hruns
    obtain ⟨fault, hstruck⟩ := struck_of_placed hstep
    exact ih answer hlater (hsheltered.strike (fun struck _ ↦ hcovered struck) hstruck)

end Worlds

/-! ### The claimed Run -/

/-- The Run is stored under its tenant. -/
def Present (runId tenantId : String) (db : Database) : Prop :=
  ∃ row, db.runs.find runId = some row ∧ row.tenantId = tenantId

section Present

variable {hasher : Hasher} {runId tenantId : String} {db after : Database}

theorem present_apply (request : Request) (hpresent : Present runId tenantId db) :
    Present runId tenantId (request.apply hasher db) := by
  obtain ⟨row, hfind, htenant⟩ := hpresent
  rcases runTables_of_apply hasher db request with hsame | ⟨call, -, hchange⟩
  · exact ⟨row, by rw [hsame.1, hfind], htenant⟩
  · obtain ⟨later, hlater, hkept⟩ := submission_fixed hchange hfind
    exact ⟨later, hlater, hkept.tenant.trans htenant⟩

theorem present_run (requests : List Request) (hpresent : Present runId tenantId db) :
    Present runId tenantId ((storeMachine hasher).run db requests) := by
  induction requests generalizing db with
  | nil => exact hpresent
  | cons request rest ih => exact ih (present_apply request hpresent)

theorem present_step {settings : WorkerSettings} (world : WorkerWorld) (op : WorkerOp)
    (answer : Except Failure op.Answer) (after : WorkerWorld)
    (hpresent : Present runId tenantId world.db)
    (hstep : workerAnswers hasher settings world op answer after) :
    Present runId tenantId after.db := by
  cases op with
  | placed place op =>
    cases op with
    | store call =>
      obtain ⟨others, fault, hperforms, -⟩ := hstep
      obtain ⟨requests, hrun⟩ := hperforms.run
      rw [hrun]
      exact present_run requests (present_run others hpresent)
    | leaseLost | runtimeEnded => rwa [hstep.2]
    | unfollowed => exact hstep.elim
    | decide | executeTool | evaluateFinish | enterProvider | awaitProvider =>
      have hsame : after = world := hstep
      rwa [hsame]
  | stopClaiming => rwa [hstep.2.2.1]
  | renewalsDisabled => rwa [hstep.2]
  | unfollowed => exact hstep.elim

end Present

/-! ### Surviving -/

section Survives

variable {hasher : Hasher} {settings : WorkerSettings} {α β : Type}

/-- The program raises exactly when a fault struck a place that does not handle it. -/
abbrev Survives (hasher : Hasher) (settings : WorkerSettings)
    (pre : WorkerWorld → Prop) (post : α → WorkerWorld → Prop) (program : Worker α) : Prop :=
  program.RaisesExactly (workerAnswers hasher settings) Sheltered pre post

theorem located_bind (place : Place) (program : Manager α) (rest : α → Manager β) :
    located place (program.bind rest) =
      (located place program).bind fun value ↦ located place (rest value) := by
  induction program with
  | done value => rfl
  | raise failure => rfl
  | call op hscope next ih => exact congrArg (Program.call _ rfl) (funext ih)

theorem runs_located_ask {place : Place} {op : Op} {hscope : Op.manager op = true}
    {world after : WorkerWorld} {result : Except Failure op.Answer} :
    (located place (Program.ask op hscope)).Runs (workerAnswers hasher settings) world result
      after ↔
      workerAnswers hasher settings world (.placed place op) result after := by
  have hask : located place (Program.ask op hscope) =
      (Program.ask (WorkerOp.placed place op) rfl : Worker op.Answer) :=
    congrArg (Program.call _ rfl) (funext fun answer ↦ by cases answer <;> rfl)
  rw [hask]
  exact Program.runs_ask

/-- An operation that only violates constraints of its own meets a fault whenever it raises. -/
theorem WorkerPerforms.fault_of_error {db after : Database} {call : Call} {failure : Failure}
    {fault : Option Fault}
    (hperforms : WorkerPerforms hasher settings db call (.error failure) after fault)
    (hraises : ∀ reading error, call.perform hasher db reading = .error error →
      ∃ constraint, error = .integrityError constraint) :
    (fault = some .retryable ∧
        isRunStoreRetryableError (failure.exceptionChain settings.driver) = true) ∨
      (fault = some .unparsed ∧
        isRunStoreRetryableError (failure.exceptionChain settings.driver) = false) := by
  cases hperforms with
  | unreached message hretryable => exact .inl ⟨rfl, hretryable⟩
  | lost message hretryable => exact .inl ⟨rfl, hretryable⟩
  | raised hperform =>
    obtain ⟨constraint, rfl⟩ := hraises _ _ hperform
    exact .inl ⟨rfl, rfl⟩
  | rejected => exact .inr ⟨rfl, parseError_not_retryable _ _⟩

theorem WorkerPerforms.of_ok {db after : Database} {call : Call} {reply : call.Reply}
    {fault : Option Fault}
    (hperforms : WorkerPerforms hasher settings db call (.ok reply) after fault) :
    fault = none ∧ ∃ reading, call.perform hasher db reading = .ok (reply, after) := by
  cases hperforms with
  | answered hperform => exact ⟨rfl, _, hperform⟩

/-- A store operation outside every handler, on a Run that is there. -/
theorem survives_store {place : Place} (hexposed : ∀ fault, place.handles fault = false)
    {runId tenantId : String} (call : Call) (post : call.Reply → Prop)
    (hreplies : ∀ db reading reply after, Present runId tenantId db →
      call.perform hasher db reading = .ok (reply, after) → post reply)
    (hraises : ∀ db reading error, Present runId tenantId db →
      call.perform hasher db reading = .error error →
        ∃ constraint, error = .integrityError constraint) :
    Survives hasher settings (fun world ↦ Present runId tenantId world.db)
      (fun reply world ↦ post reply ∧ Present runId tenantId world.db)
      (located place (Program.ask (Op.store call) rfl)) := by
  intro world result after hpresent hsheltered hruns
  have hstep := runs_located_ask.mp hruns
  have hafter := present_step world (.placed place (.store call)) result after hpresent hstep
  obtain ⟨others, fault, hperforms, -, hstruck⟩ := hstep
  have hthere : Present runId tenantId ((storeMachine hasher).run world.db others) :=
    present_run others hpresent
  cases result with
  | ok reply =>
    obtain ⟨rfl, reading, hperform⟩ := hperforms.of_ok
    refine .inl ⟨reply, rfl, ⟨hreplies _ reading reply _ hthere hperform, hafter⟩, ?_⟩
    exact hsheltered.strike (fun struck hnone ↦ by cases hnone) hstruck
  | error failure =>
    refine .inr ⟨⟨failure, rfl⟩, ?_⟩
    rcases hperforms.fault_of_error fun reading error ↦ hraises _ reading error hthere with
      ⟨rfl, -⟩ | ⟨rfl, -⟩
    · exact not_sheltered_strike (hexposed .retryable) hstruck
    · exact not_sheltered_strike (hexposed .unparsed) hstruck

/-- The flag of the heartbeat never raises. -/
theorem survives_leaseLost (place : Place) (pre : WorkerWorld → Prop) :
    Survives hasher settings pre (fun _ world ↦ pre world) (located place leaseLost) := by
  intro world result after hpre hsheltered hruns
  obtain ⟨⟨lost, rfl⟩, rfl⟩ := runs_located_ask.mp hruns
  exact .inl ⟨lost, rfl, hpre, hsheltered⟩

end Survives

/-! ### Operations outside every handler -/

section Exposed

variable {hasher : Hasher} {settings : WorkerSettings} {place : Place}
  {runId tenantId : String}

theorem classifyCommitOutcome_of_present {db : Database} {token : String} {nowMs : Int}
    {error : StoreError} (hpresent : Present runId tenantId db) :
    classifyCommitOutcome db runId tenantId token nowMs ≠ .error error := by
  obtain ⟨row, hfind, htenant⟩ := hpresent
  have hfound := (findRunForTenant_eq_some_iff db runId tenantId row).mpr ⟨hfind, htenant⟩
  unfold classifyCommitOutcome
  rw [hfound]
  dsimp only
  split_ifs <;> simp

theorem refuseCommit_of_present {db : Database} {run : RunRecord} {token : String} {nowMs : Int}
    {error : StoreError} (hpresent : Present run.runId run.tenantId db) :
    refuseCommit db run token nowMs ≠ .error error := by
  unfold refuseCommit
  cases hclassify : classifyCommitOutcome db run.runId run.tenantId token nowMs with
  | error other => exact absurd hclassify (classifyCommitOutcome_of_present hpresent)
  | ok outcome => simp

/-- The Run a record belongs to is there. -/
abbrev RunThere (run : RunRecord) (world : WorkerWorld) : Prop :=
  Present run.runId run.tenantId world.db

/-- `_mark_cancelled` outside every handler. -/
theorem survives_markCancelled (hexposed : ∀ fault, place.handles fault = false) (run : RunRecord)
    (reason token : String) :
    Survives hasher settings (RunThere run) (fun _ ↦ RunThere run)
      (located place (RuntimeManager.markCancelled run reason token)) := by
  have hcommit : Survives hasher settings (RunThere run) (fun _ world ↦ True ∧ RunThere run world)
      (located place (RunStore.commitCancelledRun run reason token)) := by
    refine survives_store hexposed (.run (.commitCancelledRun run reason token)) (fun _ ↦ True)
      (fun _ _ _ _ _ _ ↦ trivial) fun db reading error hpresent hperform ↦ ?_
    have hraised : commitCancelledRun db reading run reason token = .error error := hperform
    unfold commitCancelledRun at hraised
    split at hraised
    · exact absurd hraised (refuseCommit_of_present hpresent)
    · dsimp only at hraised
      split_ifs at hraised
      · exact ⟨_, (Except.error.inj hraised).symm⟩
  unfold RuntimeManager.markCancelled
  rw [Program.discard_eq_bind, located_bind]
  exact hcommit.bind fun _ ↦ Program.raisesExactly_done _ fun _ hthere ↦ hthere.2

/-- `_require_run` outside every handler: the record is the one of the Run's tenant. -/
theorem survives_requireRun (hexposed : ∀ fault, place.handles fault = false)
    (runId tenantId : String) :
    Survives hasher settings (fun world ↦ Present runId tenantId world.db)
      (fun latest world ↦ latest.runId = runId ∧ latest.tenantId = tenantId ∧
        Present runId tenantId world.db)
      (located place (RuntimeManager.requireRun runId)) := by
  have hread : Survives hasher settings (fun world ↦ Present runId tenantId world.db)
      (fun found world ↦ (∃ latest, found = some latest ∧ latest.runId = runId ∧
        latest.tenantId = tenantId) ∧ Present runId tenantId world.db)
      (located place (RunStore.getRunInternal runId)) := by
    refine survives_store hexposed (.run (.getRunInternal runId)) _
      (fun db reading reply after hpresent hperform ↦ ?_) fun db reading error _ hperform ↦ ?_
    · obtain ⟨row, hfind, htenant⟩ := hpresent
      have hreply : (Except.ok (getRunInternal db runId, db) :
          Except StoreError (Option RunRecord × Database)) = .ok (reply, after) := hperform
      obtain ⟨rfl, -⟩ := Prod.mk.inj (Except.ok.inj hreply)
      exact ⟨rowToRun runId row, by rw [getRunInternal, hfind]; rfl, rfl, htenant⟩
    · cases hperform
  unfold RuntimeManager.requireRun
  rw [Program.bind_eq_bind, located_bind]
  refine hread.bind fun found ↦ ?_
  intro world result after hfound hsheltered hruns
  obtain ⟨⟨latest, rfl, hrun, htenant⟩, hpresent⟩ := hfound
  obtain ⟨rfl, rfl⟩ := hruns
  exact .inl ⟨latest, rfl, ⟨hrun, htenant, hpresent⟩, hsheltered⟩

/-- Persisting the recovery marker outside every handler. -/
theorem survives_markPending (hexposed : ∀ fault, place.handles fault = false)
    (claim : RunLeaseClaim) :
    Survives hasher settings (RunThere claim.run) (fun _ ↦ RunThere claim.run)
      (located place (RuntimeManager.markPending claim)) := by
  have hcommit : Survives hasher settings (RunThere claim.run)
      (fun _ world ↦ True ∧ RunThere claim.run world)
      (located place (RunStore.commitReconciliationPending claim.run.runId claim.run.tenantId
        claim.leaseToken reconciliationPendingCode (Failure.describe .reconciliationPending))) := by
    refine survives_store hexposed (.run (.commitReconciliationPending claim.run.runId
      claim.run.tenantId claim.leaseToken reconciliationPendingCode
      (Failure.describe .reconciliationPending))) (fun _ ↦ True)
      (fun _ _ _ _ _ _ ↦ trivial) fun db reading error hpresent hperform ↦ ?_
    have hraised : commitReconciliationPending db reading claim.run.runId claim.run.tenantId
        claim.leaseToken reconciliationPendingCode (Failure.describe .reconciliationPending) =
          .error error := hperform
    unfold commitReconciliationPending at hraised
    split at hraised
    · cases hraised
    · split at hraised
      · next other hclassify => exact absurd hclassify (classifyCommitOutcome_of_present hpresent)
      · cases hraised
  unfold RuntimeManager.markPending
  rw [Program.discard_eq_bind, located_bind]
  exact hcommit.bind fun _ ↦ Program.raisesExactly_done _ fun _ hthere ↦ hthere.2

/-- `_mark_cancelled` on the latest record of a Run. -/
theorem survives_markLatest (hexposed : ∀ fault, place.handles fault = false)
    (run latest : RunRecord) (reason token : String) :
    Survives hasher settings
      (fun world ↦ latest.runId = run.runId ∧ latest.tenantId = run.tenantId ∧
        Present run.runId run.tenantId world.db)
      (fun _ ↦ RunThere run)
      (located place (RuntimeManager.markCancelled latest reason token)) := by
  intro world result after hlatest
  obtain ⟨hrun, htenant, hpresent⟩ := hlatest
  have hsame : RunThere latest = RunThere run := by
    funext other
    rw [RunThere, RunThere, hrun, htenant]
  have hcancel : Survives hasher settings (RunThere latest) (fun _ ↦ RunThere latest)
      (located place (RuntimeManager.markCancelled latest reason token)) :=
    survives_markCancelled hexposed latest reason token
  rw [hsame] at hcancel
  exact hcancel world result after hpresent

/-- The terminal commit of a failed attempt outside every handler. -/
theorem survives_commitFailure (hexposed : ∀ fault, place.handles fault = false)
    (manager : RuntimeManager) (claim : RunLeaseClaim) (run : RunRecord) (failure : Failure) :
    Survives hasher settings (RunThere run) (fun _ ↦ RunThere run)
      (located place (manager.commitFailure claim run failure)) := by
  have hcommit (code error : String) (traceback : Option String) (allow : Bool) :
      Survives hasher settings (RunThere run) (fun _ world ↦ True ∧ RunThere run world)
        (located place (RunStore.commitFailedRun run claim.leaseToken code error traceback
          allow)) := by
    refine survives_store hexposed (.run (.commitFailedRun run claim.leaseToken code error traceback
      allow)) (fun _ ↦ True) (fun _ _ _ _ _ _ ↦ trivial)
        fun db reading raised hpresent hperform ↦ ?_
    have hraised : commitFailedRun db reading run claim.leaseToken code error traceback allow =
        .error raised := hperform
    unfold commitFailedRun at hraised
    split at hraised
    · exact absurd hraised (refuseCommit_of_present hpresent)
    · cases hraised
  unfold RuntimeManager.commitFailure
  dsimp only
  rw [Program.bind_eq_bind, located_bind]
  refine (survives_requireRun hexposed run.runId run.tenantId).bind fun latest ↦ ?_
  by_cases hcancelled : (latest.cancelRequested &&
      !RuntimeManager.hasCode failure RuntimeManager.safetyFailureCodes) = true
  · rw [if_pos hcancelled]
    exact survives_markLatest hexposed run latest _ _
  · rw [if_neg hcancelled, Program.bind_eq_bind, located_bind]
    refine ((hcommit _ _ _ _).mono (fun _ hlatest ↦ hlatest.2.2) fun _ _ hthere ↦ hthere.2).bind
      fun reply ↦ ?_
    obtain ⟨outcome, record⟩ := reply
    dsimp only
    split_ifs
    · rw [Program.bind_eq_bind, located_bind]
      exact (survives_requireRun hexposed run.runId run.tenantId).bind fun again ↦
        survives_markLatest hexposed run again _ _
    · exact Program.raisesExactly_done () fun _ hthere ↦ hthere

/-- The `except` blocks of an attempt. -/
theorem survives_concludeFailure (hexposed : ∀ fault, place.handles fault = false)
    (manager : RuntimeManager) (claim : RunLeaseClaim) (run : RunRecord)
    (hrun : run.runId = claim.run.runId)
    (htenant : run.tenantId = claim.run.tenantId) (precedence : Bool) (failure : Failure) :
    Survives hasher settings (RunThere claim.run) (fun _ ↦ RunThere claim.run)
      (located place (manager.concludeFailure claim run precedence failure)) := by
  have hsame : RunThere run = RunThere claim.run := by
    funext world
    rw [RunThere, RunThere, hrun, htenant]
  have hcommit : Survives hasher settings (RunThere claim.run) (fun _ ↦ RunThere claim.run)
      (located place (manager.commitFailure claim run failure)) :=
    hsame ▸ survives_commitFailure hexposed manager claim run failure
  have hpending : Survives hasher settings (RunThere claim.run) (fun _ ↦ RunThere claim.run)
      (located place (RuntimeManager.markPending claim)) := survives_markPending hexposed claim
  unfold RuntimeManager.concludeFailure
  rw [Program.bind_eq_bind, located_bind]
  refine (survives_leaseLost place (RunThere claim.run)).bind fun lost ↦ ?_
  cases lost with
  | true => exact Program.raisesExactly_done () fun _ hthere ↦ hthere
  | false =>
    simp only [Bool.false_eq_true, if_false]
    split
    · exact hpending
    · split_ifs
      · exact hpending
      · exact hcommit

/-- The reconciliation check before an attempt. -/
theorem survives_reconcileBeforeCancelling (hexposed : ∀ fault, place.handles fault = false)
    (claim : RunLeaseClaim) :
    Survives hasher settings (RunThere claim.run) (fun _ ↦ RunThere claim.run)
      (located place (RuntimeManager.reconcileBeforeCancelling claim)) := by
  have hdone (value : Bool) : Survives hasher settings (RunThere claim.run)
      (fun _ ↦ RunThere claim.run) (located place (.done value)) :=
    Program.raisesExactly_done value fun _ hthere ↦ hthere
  unfold RuntimeManager.reconcileBeforeCancelling
  split_ifs
  · exact hdone false
  · exact hdone true
  · have hasked : Survives hasher settings (RunThere claim.run)
        (fun _ world ↦ True ∧ RunThere claim.run world)
        (located place (hasExternalActionRequiringReconciliation claim.run.runId)) :=
      survives_store hexposed
        (.workflow (.hasExternalActionRequiringReconciliation claim.run.runId))
        (fun _ ↦ True) (fun _ _ _ _ _ _ ↦ trivial) fun _ _ _ _ hperform ↦ by cases hperform
    exact hasked.mono (fun _ hthere ↦ hthere) fun _ _ hthere ↦ hthere.2

end Exposed

/-! ### An attempt and its cleanup -/

section Attempt

variable {hasher : Hasher} {settings : WorkerSettings}

/-- A block under a handler, on a Run that is there. -/
theorem survives_covered {α : Type} {place : Place} (hcovered : ∀ fault, place.handles fault = true)
    {runId tenantId : String} (program : Manager α) :
    Survives hasher settings (fun world ↦ Present runId tenantId world.db)
      (fun _ world ↦ Present runId tenantId world.db)
      (Program.attempt (located place program)) :=
  Program.raisesExactly_attempt fun _ _ _ hpresent hsheltered hruns ↦
    ⟨hruns.invariant present_step hpresent, sheltered_located hcovered hruns hsheltered⟩

theorem survives_executeOwnedRun (manager : RuntimeManager) (claim : RunLeaseClaim) :
    Survives hasher settings (RunThere claim.run) (fun _ ↦ RunThere claim.run)
      (manager.executeOwnedRunLocated claim) := by
  have hcheck : ∀ fault, Place.check.handles fault = false := fun _ ↦ rfl
  have hbody : ∀ fault, Place.body.handles fault = true := fun _ ↦ rfl
  have hhandler : ∀ fault, Place.handler.handles fault = false := fun _ ↦ rfl
  have hdone : Survives hasher settings (RunThere claim.run) (fun _ ↦ RunThere claim.run)
      (.done () : Worker Unit) := Program.raisesExactly_done () fun _ hthere ↦ hthere
  unfold RuntimeManager.executeOwnedRunLocated
  simp only [Program.bind_eq_bind, Program.pure_eq_done]
  refine (survives_leaseLost .check (RunThere claim.run)).bind fun lost ↦ ?_
  cases lost with
  | true => exact hdone
  | false =>
    simp only [Bool.false_eq_true, if_false]
    refine (survives_reconcileBeforeCancelling hcheck claim).bind fun precedence ↦ ?_
    split_ifs
    · exact survives_markCancelled hcheck claim.run _ _
    · refine (survives_covered hbody _).bind fun ended ↦ ?_
      rcases ended with failure | ended
      · exact survives_concludeFailure hhandler manager claim claim.run rfl rfl precedence failure
      cases ended with
      | none => exact hdone
      | some pair =>
        obtain ⟨response, state⟩ := pair
        refine (survives_leaseLost .body (RunThere claim.run)).bind fun late ↦ ?_
        cases late with
        | true => exact hdone
        | false =>
          simp only [Bool.false_eq_true, if_false]
          refine (survives_covered hbody _).bind fun committed ↦ ?_
          cases committed with
          | ok value => exact hdone
          | error failure =>
            exact survives_concludeFailure hhandler manager claim
              (RuntimeManager.withResult claim.run response state) rfl rfl precedence failure

/-- The read of the cleanup neither raises nor forgets what was struck. -/
theorem runs_afterCleanup {runId : String} {rest : PUnit → Worker Unit}
    {middle after : WorkerWorld} {result : Except Failure Unit}
    (hruns : (((Program.attempt (located .cleanup (RunStore.getRunInternal runId))).bind
      fun _ ↦ .done PUnit.unit).bind rest).Runs (workerAnswers hasher settings) middle result
        after) :
    ∃ last, (Sheltered last ↔ Sheltered middle) ∧
      (rest PUnit.unit).Runs (workerAnswers hasher settings) last result after := by
  rcases Program.runs_bind.mp hruns with ⟨error, herror, -⟩ | ⟨_, last, hread, hends⟩
  · rcases Program.runs_bind.mp herror with ⟨error, herror, -⟩ | ⟨_, _, -, hdone⟩
    · obtain ⟨inner, hinner, -⟩ := Program.runs_attempt.mp herror
      cases hinner
    · cases hdone.1
  · refine ⟨last, ?_, hends⟩
    rcases Program.runs_bind.mp hread with ⟨error, -, herror⟩ | ⟨_, found, hfound, -, rfl⟩
    · cases herror
    obtain ⟨inner, -, hlocated⟩ := Program.runs_attempt.mp hfound
    constructor
    · intro hlast
      by_contra hbad
      exact hlocated.invariant not_sheltered_step hbad hlast
    · exact sheltered_located (fun _ ↦ rfl) hlocated

/-- `_execute_claim` passes on what the attempt raised, after a read that raises nothing. -/
theorem survives_executeClaim (manager : RuntimeManager) (claim : RunLeaseClaim) :
    Survives hasher settings (RunThere claim.run) (fun _ _ ↦ True)
      (manager.executeClaim claim) := by
  have hflag : Survives hasher settings (RunThere claim.run) (fun _ ↦ RunThere claim.run)
      renewalsDisabled := by
    intro world result after hthere hsheltered hruns
    have hstep : workerAnswers hasher settings world .renewalsDisabled result after :=
      Program.runs_ask.mp hruns
    obtain ⟨⟨disabled, rfl⟩, rfl⟩ := hstep
    exact .inl ⟨disabled, rfl, hthere, hsheltered⟩
  unfold RuntimeManager.executeClaim
  simp only [Program.bind_eq_bind, Program.pure_eq_done, Program.discard_eq_bind,
    Program.throw_eq_raise]
  refine hflag.bind fun disabled ↦ ?_
  split_ifs
  · exact (survives_covered (fun _ ↦ rfl) _).bind fun _ ↦
      Program.raisesExactly_done _ fun _ _ ↦ trivial
  · intro world result after hthere hsheltered hruns
    rcases Program.runs_bind.mp hruns with ⟨error, herror, -⟩ | ⟨ended, middle, hended, hlater⟩
    · obtain ⟨inner, hinner, -⟩ := Program.runs_attempt.mp herror
      cases hinner
    obtain ⟨inner, hinner, hattempt⟩ := Program.runs_attempt.mp hended
    obtain rfl := Except.ok.inj hinner
    obtain ⟨last, hkept, hends⟩ := runs_afterCleanup hlater
    rcases survives_executeOwnedRun manager claim world ended middle hthere hsheltered hattempt with
      ⟨value, rfl, -, hgood⟩ | ⟨⟨failure, rfl⟩, hbad⟩
    · obtain ⟨rfl, rfl⟩ := hends
      exact .inl ⟨(), rfl, trivial, hkept.mpr hgood⟩
    · obtain ⟨rfl, rfl⟩ := hends
      exact .inr ⟨⟨failure, rfl⟩, fun hlast ↦ hbad (hkept.mp hlast)⟩

end Attempt

/-! ### The loop -/

section Loop

variable {hasher : Hasher} {settings : WorkerSettings}

/-- Reading the stop event raises nothing. -/
theorem runs_stopClaiming {settings : WorkerSettings} {world after : WorkerWorld}
    {result : Except Failure Bool}
    (hruns : stopClaiming.Runs (workerAnswers hasher settings) world result after) :
    result = .ok after.stopping ∧ after.struck = world.struck := by
  have hstep : workerAnswers hasher settings world .stopClaiming result after :=
    Program.runs_ask.mp hruns
  exact ⟨hstep.1, hstep.2.2.2⟩

/-- What the loop makes of an exception of its polling block: one that it retries left every fault
handled, and one that it raises again did not. -/
def Sorted (settings : WorkerSettings) (failure : Failure) (world : WorkerWorld) : Prop :=
  (isRunStoreRetryableError (failure.exceptionChain settings.driver) = true ∧ Sheltered world) ∨
    (isRunStoreRetryableError (failure.exceptionChain settings.driver) = false ∧
      ¬ Sheltered world)

/-- What the loop relies on when its polling block ended. -/
def PollEnds (settings : WorkerSettings) (world : WorkerWorld) : Except Failure Polled → Prop
  | .error failure => Sorted settings failure world
  | .ok .stopping => world.stopping = true ∧ Sheltered world
  | .ok (.claimed (some claim)) => RunThere claim.run world ∧ Sheltered world
  | .ok .cancelled | .ok (.claimed none) => Sheltered world

theorem claimNextRun_raises (settings : WorkerSettings) {db : Database} {reading : Reading}
    {code : Option String} {error : StoreError}
    (hraised : Store.claimNextRun db reading settings.ownerId settings.leaseDurationSeconds code =
      .error error) :
    ∃ constraint, error = .integrityError constraint := by
  unfold Store.claimNextRun at hraised
  rw [if_neg (by simp [settings.named]), if_neg (Int.not_le.mpr settings.lasting)] at hraised
  split at hraised
  · cases hraised
  · dsimp only at hraised
    split_ifs at hraised
    exact ⟨_, (Except.error.inj hraised).symm⟩

theorem present_claimNextRun {db after : Database} {reading : Reading} {code : Option String}
    {claim : RunLeaseClaim}
    (hclaimed : Store.claimNextRun db reading settings.ownerId settings.leaseDurationSeconds code =
      .ok (some claim, after)) :
    Present claim.run.runId claim.run.tenantId after := by
  obtain ⟨row, -, -, -, hrun, hrewrites⟩ := claimNextRun_eq_some hclaimed
  have hfind := hrewrites claim.run.runId
  rw [if_pos rfl] at hfind
  exact ⟨_, hfind, (congrArg RunRecord.tenantId hrun).symm⟩

theorem finalizeNextQueuedCancellation_ne_error {db : Database} {reading : Reading}
    {error : StoreError} : Store.finalizeNextQueuedCancellation db reading ≠ .error error := by
  unfold Store.finalizeNextQueuedCancellation
  split <;> simp

/-- A polling operation that answers. -/
theorem polled_ok {world after : WorkerWorld} {call : Call} {reply : call.Reply}
    (hsheltered : Sheltered world)
    (hruns : (located .polling (Program.ask (Op.store call) rfl)).Runs
      (workerAnswers hasher settings) world (.ok reply) after) :
    Sheltered after ∧ ∃ db reading, call.perform hasher db reading = .ok (reply, after.db) := by
  obtain ⟨others, fault, hperforms, -, hstruck⟩ := runs_located_ask.mp hruns
  obtain ⟨rfl, hperform⟩ := hperforms.of_ok
  exact ⟨hsheltered.strike (fun struck hnone ↦ by cases hnone) hstruck, _, hperform⟩

/-- A polling operation that raises, of its own only for a violated constraint. -/
theorem polled_error {world after : WorkerWorld} {call : Call} {failure : Failure}
    (hsheltered : Sheltered world)
    (hruns : (located .polling (Program.ask (Op.store call) rfl)).Runs
      (workerAnswers hasher settings) world (.error failure) after)
    (hraises : ∀ db reading error, call.perform hasher db reading = .error error →
      ∃ constraint, error = .integrityError constraint) :
    Sorted settings failure after := by
  obtain ⟨others, fault, hperforms, -, hstruck⟩ := runs_located_ask.mp hruns
  rcases hperforms.fault_of_error fun reading error ↦ hraises _ reading error with
    ⟨rfl, hretryable⟩ | ⟨rfl, hfatal⟩
  · exact .inl ⟨hretryable, hsheltered.strike
      (fun struck hfault ↦ by rw [← Option.some.inj hfault]; rfl) hstruck⟩
  · exact .inr ⟨hfatal, not_sheltered_strike rfl hstruck⟩

/-- The polling block: what it raises is retried unless a state was rejected, and what it claims is
there. -/
theorem ends_poll {world after : WorkerWorld} {result : Except Failure Polled}
    (hsheltered : Sheltered world)
    (hruns : (poll settings).Runs (workerAnswers hasher settings) world result after) :
    PollEnds settings after result := by
  unfold poll at hruns
  simp only [Program.bind_eq_bind, Program.pure_eq_done] at hruns
  rcases Program.runs_bind.mp hruns with ⟨failure, hfailed, rfl⟩ | ⟨found, middle, hfound, hlater⟩
  · refine polled_error hsheltered hfailed fun _ _ error hraised ↦ ?_
    exact absurd hraised finalizeNextQueuedCancellation_ne_error
  have hmiddle : Sheltered middle := (polled_ok hsheltered hfound).1
  cases found with
  | some run =>
    obtain ⟨rfl, rfl⟩ := hlater
    exact hmiddle
  | none =>
    rcases Program.runs_bind.mp hlater with ⟨failure, hfailed, -⟩ | ⟨stop, asked, hasked, hend⟩
    · cases (runs_stopClaiming hfailed).1
    · obtain ⟨hstop, hstruck⟩ := runs_stopClaiming hasked
      have hgood : Sheltered asked := fun strike hmem ↦ hmiddle strike (hstruck ▸ hmem)
      cases stop with
      | true =>
        obtain ⟨rfl, rfl⟩ := hend
        exact ⟨(Except.ok.inj hstop).symm, hgood⟩
      | false =>
        simp only [Bool.false_eq_true, if_false] at hend
        rcases Program.runs_bind.mp hend with ⟨failure, hfailed, rfl⟩ | ⟨claim, last, hclaim, hdone⟩
        · exact polled_error hgood hfailed fun _ _ _ hraised ↦ claimNextRun_raises settings hraised
        · obtain ⟨rfl, rfl⟩ := hdone
          obtain ⟨hlast, db, reading, hperform⟩ := polled_ok hgood hclaim
          cases claim with
          | none => exact hlast
          | some claim => exact ⟨present_claimNextRun hperform, hlast⟩

/-- Along the iterations: the loop raises exactly when a fault struck a place that does not handle
it, and returns only when the stop event is set. -/
theorem survives_workerLoop (manager : RuntimeManager) (rounds : Nat) :
    Survives hasher settings (fun _ ↦ True) (fun _ world ↦ world.stopping = true)
      (manager.workerLoop settings rounds) := by
  induction rounds with
  | zero =>
    rintro world result after - - ⟨answer, middle, hstep, -⟩
    exact hstep.elim
  | succ rounds ih =>
    intro world result after _ hsheltered hruns
    unfold RuntimeManager.workerLoop at hruns
    simp only [Program.bind_eq_bind, Program.pure_eq_done, Program.throw_eq_raise] at hruns
    rcases Program.runs_bind.mp hruns with ⟨failure, hfailed, -⟩ | ⟨stop, asked, hasked, hlater⟩
    · cases (runs_stopClaiming hfailed).1
    obtain ⟨hstop, hstruck⟩ := runs_stopClaiming hasked
    have hasking : Sheltered asked := fun strike hmem ↦ hsheltered strike (hstruck ▸ hmem)
    cases stop with
    | true =>
      obtain ⟨rfl, rfl⟩ := hlater
      exact .inl ⟨(), rfl, (Except.ok.inj hstop).symm, hasking⟩
    | false =>
      simp only [Bool.false_eq_true, if_false] at hlater
      rcases Program.runs_bind.mp hlater with ⟨failure, hfailed, -⟩ | ⟨ended, polled, hended, hend⟩
      · obtain ⟨inner, hinner, -⟩ := Program.runs_attempt.mp hfailed
        cases hinner
      obtain ⟨inner, hinner, hpoll⟩ := Program.runs_attempt.mp hended
      obtain rfl := Except.ok.inj hinner
      have hends := ends_poll hasking hpoll
      rcases ended with failure | ended
      · dsimp only at hend
        rcases hends with ⟨hretry, hpolled⟩ | ⟨hfatal, hbad⟩
        · rw [if_pos hretry] at hend
          exact ih _ _ _ trivial hpolled hend
        · rw [if_neg (by simp [hfatal])] at hend
          obtain ⟨rfl, rfl⟩ := hend
          exact .inr ⟨⟨failure, rfl⟩, hbad⟩
      · cases ended with
        | cancelled => exact ih _ _ _ trivial hends hend
        | stopping =>
          obtain ⟨rfl, rfl⟩ := hend
          exact .inl ⟨(), rfl, hends⟩
        | claimed claim =>
          cases claim with
          | none => exact ih _ _ _ trivial hends hend
          | some claim =>
            have hrest : Survives hasher settings (RunThere claim.run)
                (fun _ world ↦ world.stopping = true) ((manager.executeClaim claim).bind fun _ ↦
                  manager.workerLoop settings rounds) :=
              (survives_executeClaim manager claim).bind fun _ ↦ ih
            exact hrest _ _ _ hends.1 hends.2 hend

end Loop

/-- A worker over the stores, before any fault. -/
def WorkerWorld.start (db : Database) : WorkerWorld := ⟨db, false, []⟩

/-- A worker under storage faults. In every run of the worker loop among other requests, in which
any store operation may raise an error that `is_run_store_retryable_error` accepts, the loop ends
through `_stop_claiming` and without an exception if and only if no such error struck an operation
before the `try` block of `_execute_owned_run` or inside one of its `except` blocks, and no stored
state was rejected there or in the polling block. -/
theorem worker_survives_iff (hasher : Hasher) (manager : RuntimeManager) (settings : WorkerSettings)
    (rounds : Nat) (db : Database) (result : Except Failure Unit) (after : WorkerWorld)
    (hruns : (manager.workerLoop settings rounds).Runs (workerAnswers hasher settings) (.start db)
      result after) :
    (result = .ok () ∧ after.stopping = true) ↔
      ∀ strike ∈ after.struck, strike.1.handles strike.2 = true := by
  have hstart : Sheltered (.start db) := fun strike hmem ↦ by cases hmem
  rcases survives_workerLoop manager rounds _ _ _ trivial hstart hruns with
    ⟨value, rfl, hstopping, hgood⟩ | ⟨⟨failure, rfl⟩, hbad⟩
  · exact ⟨fun _ ↦ hgood, fun _ ↦ ⟨rfl, hstopping⟩⟩
  · exact ⟨fun hreturned ↦ (by cases hreturned.1), fun hgood ↦ absurd hgood hbad⟩

/-! ### A locked database -/

/-- A manager without agents, and a driver whose only exception is a `sqlite3.OperationalError`. -/
def idleManager : RuntimeManager := ⟨fun _ _ ↦ none, fun _ ↦ ""⟩

def lockedSettings : WorkerSettings where
  ownerId := "w2"
  leaseDurationSeconds := 30
  driver := fun _ ↦ [⟨true, none, "sqlite3", "OperationalError"⟩]
  states := fun _ _ ↦ some fun _ ↦ true
  named := by decide
  lasting := by decide

/-- A fault of the polling block: the loop goes on until it is stopped. -/
theorem worker_survives_locked_poll :
    ∃ after : WorkerWorld, after.struck = [(.polling, .retryable)] ∧ after.stopping = true ∧
      (idleManager.workerLoop lockedSettings 2).Runs (workerAnswers sampleHasher lockedSettings)
        (.start .empty) (.ok ()) after := by
  let struck : WorkerWorld := ⟨.empty, false, [(.polling, .retryable)]⟩
  let stopped : WorkerWorld := ⟨.empty, true, [(.polling, .retryable)]⟩
  have hfailed : workerAnswers sampleHasher lockedSettings (.start .empty)
      (.placed .polling (.store (.run .finalizeNextQueuedCancellation)))
      (.error (.storage "database is locked")) struck :=
    ⟨[], some .retryable, .unreached _ rfl, rfl, rfl⟩
  have hruns : (idleManager.workerLoop lockedSettings 2).Runs
      (workerAnswers sampleHasher lockedSettings) (.start .empty) (.ok ()) stopped :=
    ⟨.ok false, .start .empty, ⟨rfl, fun hstop ↦ hstop, rfl, rfl⟩,
      .error (.storage "database is locked"), struck, hfailed,
      .ok true, stopped, ⟨rfl, fun _ ↦ rfl, rfl, rfl⟩, rfl, rfl⟩
  have hhandled : ∀ strike ∈ stopped.struck, strike.1.handles strike.2 = true := by decide
  obtain ⟨-, hstopping⟩ := (worker_survives_iff sampleHasher idleManager lockedSettings 2 .empty
    (.ok ()) stopped hruns).mpr hhandled
  exact ⟨stopped, rfl, hstopping, hruns⟩

theorem workerAnswers_answered {hasher : Hasher} (place : Place) (world : WorkerWorld)
    (reading : Reading) {call : Call} {reply : call.Reply} {db : Database}
    (hperform : call.perform hasher world.db reading = .ok (reply, db)) :
    workerAnswers hasher lockedSettings world (.placed place (.store call)) (.ok reply)
      { world with db := db } := by
  have hparsed : (parsedState call reply).bind lockedSettings.states.rejection = none := by
    cases parsedState call reply with
    | none => rfl
    | some state => rfl
  exact ⟨[], none, .answered hperform hparsed, rfl, (List.append_nil _).symm⟩

/-- A Run whose worker crashed: its lease lapsed long before the next claim. -/
def abandonedRun : Database :=
  (storeMachine sampleHasher).run .empty
    [submitRequest (sampleRun "r1" "t0" none),
      ⟨sampleReading 0 "a", .run (.claimNextRun "w1" 30 none)⟩]

theorem claims_abandonedRun :
    ∃ claim after, Store.claimNextRun abandonedRun (sampleReading 90000 "z") "w2" 30
        (some reconciliationPendingCode) = .ok (some claim, after) ∧
      claim.recoveryReason.isNone = false ∧ claim.run.errorCode = none := by
  have hvalues : ((Store.claimNextRun abandonedRun (sampleReading 90000 "z") "w2" 30
      (some reconciliationPendingCode)).toOption.bind Prod.fst).map
        (fun claim ↦ (claim.recoveryReason.isNone, claim.run.errorCode)) = some (false, none) := by
    decide +kernel
  cases hclaimed : Store.claimNextRun abandonedRun (sampleReading 90000 "z") "w2" 30
      (some reconciliationPendingCode) with
  | error error =>
    rw [hclaimed] at hvalues
    cases hvalues
  | ok reply =>
    obtain ⟨claim, after⟩ := reply
    rw [hclaimed] at hvalues
    cases claim with
    | none => cases hvalues
    | some claim =>
      obtain ⟨hrecovered, hunmarked⟩ := Prod.mk.inj (Option.some.inj hvalues)
      exact ⟨claim, after, rfl, hrecovered, hunmarked⟩

/-- The recovery callback finds the database locked once, and the worker is gone. -/
theorem worker_exits_on_locked_check :
    ∃ after : WorkerWorld, isRunStoreRetryableError (lockedSettings.driver "database is locked") =
        true ∧
      (idleManager.workerLoop lockedSettings 1).Runs (workerAnswers sampleHasher
        lockedSettings) (.start abandonedRun) (.error (.storage "database is locked"))
        after := by
  obtain ⟨claim, db, hclaimed, hrecovered, hunmarked⟩ := claims_abandonedRun
  let claimed : WorkerWorld := ⟨db, false, []⟩
  let struck : WorkerWorld := ⟨db, false, [(.check, .retryable)]⟩
  have hcheck : RuntimeManager.reconcileBeforeCancelling claim =
      hasExternalActionRequiringReconciliation claim.run.runId := by
    simp [RuntimeManager.reconcileBeforeCancelling, hrecovered, hunmarked]
  have hfailed : workerAnswers sampleHasher lockedSettings claimed
      (.placed .check (.store (.workflow (.hasExternalActionRequiringReconciliation
        claim.run.runId)))) (.error (.storage "database is locked")) struck :=
    ⟨[], some .retryable, .unreached _ rfl, rfl, rfl⟩
  have hattempt : (idleManager.executeOwnedRunLocated claim).Runs (workerAnswers sampleHasher
      lockedSettings) claimed (.error (.storage "database is locked")) struck := by
    unfold RuntimeManager.executeOwnedRunLocated
    refine Program.runs_bind.mpr (.inr ⟨false, claimed,
      runs_located_ask.mpr ⟨⟨false, rfl⟩, rfl⟩, ?_⟩)
    rw [hcheck]
    exact Program.runs_bind.mpr (.inl ⟨_, runs_located_ask.mpr hfailed, rfl⟩)
  have hread : (located .cleanup (RunStore.getRunInternal claim.run.runId)).Runs
      (workerAnswers sampleHasher lockedSettings) struck
      (.ok (Store.getRunInternal db claim.run.runId)) struck :=
    runs_located_ask.mpr (workerAnswers_answered .cleanup struck (sampleReading 90001 "y") rfl)
  have hexecute : (idleManager.executeClaim claim).Runs (workerAnswers sampleHasher
      lockedSettings) claimed (.error (.storage "database is locked")) struck := by
    unfold RuntimeManager.executeClaim
    refine Program.runs_bind.mpr (.inr ⟨false, claimed,
      Program.runs_ask.mpr ⟨⟨false, rfl⟩, rfl⟩, ?_⟩)
    refine Program.runs_bind.mpr (.inr ⟨_, struck,
      Program.runs_attempt.mpr ⟨_, rfl, hattempt⟩, ?_⟩)
    refine Program.runs_bind.mpr (.inr ⟨(), struck, ?_, rfl, rfl⟩)
    exact Program.runs_bind.mpr (.inr ⟨_, struck, Program.runs_attempt.mpr ⟨_, rfl, hread⟩,
      rfl, rfl⟩)
  have hpolled : (poll lockedSettings).Runs (workerAnswers sampleHasher lockedSettings)
      (.start abandonedRun) (.ok (.claimed (some claim))) claimed := by
    unfold poll
    refine Program.runs_bind.mpr (.inr ⟨none, .start abandonedRun,
      runs_located_ask.mpr (workerAnswers_answered .polling (.start abandonedRun)
        (sampleReading 90000 "y") rfl), ?_⟩)
    refine Program.runs_bind.mpr (.inr ⟨false, .start abandonedRun,
      Program.runs_ask.mpr ⟨rfl, fun hstop ↦ hstop, rfl, rfl⟩, ?_⟩)
    exact Program.runs_bind.mpr (.inr ⟨some claim, claimed,
      runs_located_ask.mpr (workerAnswers_answered .polling (.start abandonedRun)
        (sampleReading 90000 "z") hclaimed), rfl, rfl⟩)
  refine ⟨struck, rfl, ?_⟩
  unfold RuntimeManager.workerLoop
  refine Program.runs_bind.mpr (.inr ⟨false, .start abandonedRun,
    Program.runs_ask.mpr ⟨rfl, fun hstop ↦ hstop, rfl, rfl⟩, ?_⟩)
  refine Program.runs_bind.mpr (.inr ⟨_, claimed, Program.runs_attempt.mpr ⟨_, rfl, hpolled⟩, ?_⟩)
  exact Program.runs_bind.mpr (.inl ⟨_, hexecute, rfl⟩)

end AgentRuntime.Execution
