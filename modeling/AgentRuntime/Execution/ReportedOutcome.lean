import AgentRuntime.Execution.AttemptSystem
import AgentRuntime.Execution.DefinitiveFailure

/-!
# The reported outcome agrees with the ledger

A Run and its execution are FAILED by the attempt that holds the lease, with a code that its history
warrants. Three of the codes speak of an external action, and what the history of an attempt says of
a terminal action stays true (`Attests`), so there is such an action in the ledger. `Truthful` says
this of one call, `Told` of the tables, and `OutcomeInv` carries it through a run. The codes of the
domain's own code are assumed not to be those three: `PlainRuntimes` for what a runtime raises
around the loop, `PlainEvaluation` for what the finish evaluator raises.
-/

set_option autoImplicit false
set_option relaxedAutoImplicit false

namespace AgentRuntime.Store

/-! ### Who ended a Run -/

section Endings

variable {db after : Database} {reading : Reading} {call : RunCall} {runId : String}

/-- The call fails a Run, whose lease it holds, with a code. -/
def RunCall.FailsWith (db : Database) (call : RunCall) (runId code : String) : Prop :=
  ∃ run token error traceback allow, call = .commitFailedRun run token code error traceback allow ∧
    run.runId = runId ∧ HoldsLease db runId token

/-- What a rewrite of a row makes of its status. -/
theorem RowChange.ending {row rewritten : RunRow} {notes : List Note}
    (hrow : RowChange db reading call runId row rewritten notes)
    (hfind : db.runs.find runId = some row) :
    rewritten.status = row.status ∨ rewritten.status = .running ∨ rewritten.status = .cancelled ∨
      rewritten.status = .failed ∧ ∃ code, rewritten.errorCode = some code ∧
        (code = threadCheckpointConflictCode ∨ call.FailsWith db runId code) := by
  cases hrow with
  | claimQueued | takeover => exact .inr (.inl rfl)
  | renew | expire | marker | attemptEvent | controlEvent | requestCancel | quarantine =>
    exact .inl rfl
  | cancelQueued | cancel => exact .inr (.inr (.inl rfl))
  | conflict | resolve => exact .inr (.inr (.inr ⟨rfl, _, rfl, .inl rfl⟩))
  | fail run token code error traceback allow hcall hrun hattempt =>
    have hheld : HoldsLease db runId token :=
      ⟨row, hfind, ((holdsLease_iff row token reading.nowMs).mp hattempt.2).1⟩
    exact .inr (.inr (.inr ⟨rfl, code, rfl, .inr ⟨run, token, error, traceback, allow, hcall, hrun,
      hheld⟩⟩))

/-- Where the row of a Run comes from. -/
theorem row_origin (hchange : RunChange db reading call after) {row : RunRow}
    (hfind : after.runs.find runId = some row) :
    db.runs.find runId = some row ∨ row.status = .queued ∨
      (∃ old notes, db.runs.find runId = some old ∧
        RowChange db reading call runId old row notes) ∨
      row.status = .completed ∧ ∃ run token, call = .commitCompletedRun run token ∧
        run.runId = runId ∧ HoldsLease db runId token := by
  cases hchange with
  | same htables => exact .inl (by rw [← htables.1, hfind])
  | created run notes hcall hnew hfresh hseed hruns =>
    rw [hruns runId] at hfind
    by_cases heq : runId = run.runId
    · rw [if_pos heq] at hfind
      exact .inr (.inl (Option.some.inj hfind ▸ createdRow_status hnew))
    · rw [if_neg heq] at hfind
      exact .inl hfind
  | rewritten other old rewritten notes hother hrow hruns =>
    rw [hruns runId] at hfind
    by_cases heq : runId = other
    · subst heq
      rw [if_pos rfl] at hfind
      obtain rfl := Option.some.inj hfind
      exact .inr (.inr (.inl ⟨old, notes, hother, hrow⟩))
    · rw [if_neg heq] at hfind
      exact .inl hfind
  | completed run token old state hcall hcompletion =>
    rw [hcompletion.runs runId] at hfind
    by_cases heq : runId = run.runId
    · subst heq
      rw [if_pos rfl] at hfind
      obtain rfl := Option.some.inj hfind
      have hheld : HoldsLease db run.runId token := ⟨old, hcompletion.find,
        ((holdsLease_iff old token reading.nowMs).mp hcompletion.attempt.2).1⟩
      exact .inr (.inr (.inr ⟨rfl, run, token, hcall, rfl, hheld⟩))
    · rw [if_neg heq] at hfind
      exact .inl hfind

/-- A FAILED Run was FAILED before, conflicted with the checkpoint of its thread, or was failed by
the attempt that holds its lease. -/
theorem failed_of_run (hchange : RunChange db reading call after) {row : RunRow}
    (hfind : after.runs.find runId = some row) (hfailed : row.status = .failed) :
    db.runs.find runId = some row ∨ ∃ code, row.errorCode = some code ∧
      (code = threadCheckpointConflictCode ∨ call.FailsWith db runId code) := by
  rcases row_origin hchange hfind with hold | hqueued | ⟨old, notes, hold, hrow⟩ | ⟨hdone, -⟩
  · exact .inl hold
  · rw [hfailed] at hqueued
    cases hqueued
  · rcases hrow.ending hold with hsame | hrunning | hcancelled | ⟨-, hcode⟩
    · -- A FAILED row is fixed.
      have hterminal : old.status.isTerminal = true := by rw [← hsame, hfailed]; rfl
      rw [terminal_row_fixed hchange hold hterminal] at hfind
      exact .inl (hold.trans hfind)
    · rw [hfailed] at hrunning
      cases hrunning
    · rw [hfailed] at hcancelled
      cases hcancelled
    · exact .inr hcode
  · rw [hfailed] at hdone
    cases hdone

/-- A COMPLETED Run was COMPLETED before, or was completed by the attempt that holds its lease. -/
theorem completed_of_run (hchange : RunChange db reading call after) {row : RunRow}
    (hfind : after.runs.find runId = some row) (hcompleted : row.status = .completed) :
    db.runs.find runId = some row ∨ ∃ run token, call = .commitCompletedRun run token ∧
      run.runId = runId ∧ HoldsLease db runId token := by
  rcases row_origin hchange hfind with hold | hqueued | ⟨old, notes, hold, hrow⟩ | ⟨-, hdone⟩
  · exact .inl hold
  · rw [hcompleted] at hqueued
    cases hqueued
  · have hterminal : old.status.isTerminal = true := by
      rw [hrow.completed_before hcompleted]
      rfl
    rw [terminal_row_fixed hchange hold hterminal] at hfind
    exact .inl (hold.trans hfind)
  · exact .inr hdone

end Endings

end AgentRuntime.Store

namespace AgentRuntime.Execution

open Library Store

/-! ### Codes of the domain -/

/-- The code of the runtimes that the manager registered raises no code of an external action. -/
def PlainRuntimes (manager : RuntimeManager) : Prop :=
  ∀ run registration code, manager.registrationFor run = .ok registration →
    Foreign registration code → reportedStatus code = none

/-- A finish evaluator raises no code of an external action. -/
def PlainEvaluation : Label → Prop
  | .work _ (.evaluation (.error failure)) => failure.code.bind reportedStatus = none
  | _ => True

instance PlainEvaluation.decidable : (label : Label) → Decidable (PlainEvaluation label)
  | .work _ (.evaluation (.error failure)) =>
    inferInstanceAs (Decidable (failure.code.bind reportedStatus = none))
  | .work _ (.evaluation (.ok _)) | .work _ (.store ..) | .work _ (.planner _) | .work _ (.tool _)
  | .work _ (.provider _) | .work _ (.flag _) | .work _ .noted | .crash _ | .claim ..
  | .control .. | .applyEffect _ => isTrue trivial

/-- No evaluator of the history raised a code of an external action. -/
def PlainHistory (history : History) : Prop :=
  ∀ decision observations failure,
    (⟨.evaluateFinish decision observations, .error failure⟩ : Deed) ∈
    history → failure.code.bind reportedStatus = none

/-! ### Truthful calls -/

/-- The code tells the truth about an action of the Run, if it speaks of one. -/
def TrueCode (db : Database) (runId code : String) : Prop :=
  ∀ status, reportedStatus code = some status → ∃ stepId, ActionIn db runId stepId status

theorem TrueCode.mono {db after : Database} {runId code : String} (htrue : TrueCode db runId code)
    (hages : Ages db after) : TrueCode after runId code := by
  intro status hreported
  obtain ⟨stepId, hin⟩ := htrue status hreported
  exact ⟨stepId, hin.mono (reportedStatus_terminal hreported) hages⟩

/-- The loop of every COMPLETED Run has ended. -/
def LoopsEnded (db : Database) : Prop :=
  ∀ runId row, db.runs.find runId = some row → row.status = .completed → LoopEnded db runId

/-- What the tables report is what the ledger says. -/
structure Told (db : Database) : Prop where
  executions : ∀ runId row code, db.executions.find runId = some row → row.status = .failed →
    row.errorCode = some code → TrueCode db runId code
  failed : ∀ runId row code, db.runs.find runId = some row → row.status = .failed →
    row.errorCode = some code → TrueCode db runId code
  completed : LoopsEnded db

/-- The call completes a Run only if its loop has ended. -/
def CompletesEnded (db : Database) (call : Call) : Prop :=
  ∀ run token, call = .run (.commitCompletedRun run token) → LoopEnded db run.runId

/-- The call reports what the ledger says. -/
structure Truthful (db : Database) (call : Call) : Prop where
  execution : ∀ runId code token, call = .workflow (.finalizeFailed runId code token) →
    TrueCode db runId code
  failed : ∀ runCall runId code, call = .run runCall → runCall.FailsWith db runId code →
    TrueCode db runId code
  completed : CompletesEnded db call

section Truth

variable {hasher : Hasher} {manager : RuntimeManager} {claims : List RunLeaseClaim}
  {claim : RunLeaseClaim} {history : History} {db after : Database} {reading : Reading}

theorem told_empty : Told Database.empty where
  executions runId row code hfind := by cases hfind
  failed runId row code hfind := by cases hfind
  completed runId row hfind := by cases hfind

/-- The codes of a checkpoint conflict do not speak of an action. -/
theorem trueCode_conflict (db : Database) (runId : String) :
    TrueCode db runId threadCheckpointConflictCode := by
  intro status hreported
  cases hreported

theorem executions_of_perform {call : Call} {reply : call.Reply} (htold : Told db)
    (htruthful : Truthful db call) (hok : call.perform hasher db reading = .ok (reply, after))
    {runId code : String} {row : ExecutionRow} (hfind : after.executions.find runId = some row)
    (hfailed : row.status = .failed) (hcode : row.errorCode = some code) :
    TrueCode db runId code := by
  cases call with
  | run call =>
    rw [(onlyRunTables_of_run hok).1.1] at hfind
    exact htold.executions runId row code hfind hfailed hcode
  | memory call =>
    rw [(onlyMemory_of_memory hok).2.1] at hfind
    exact htold.executions runId row code hfind hfailed hcode
  | workflow call =>
    have hended : row.status.isTerminal = true := by rw [hfailed]; rfl
    rcases verdict_of_workflow (workflowChange_of_perform hok) hfind hended with
      hold | ⟨eventType, result, hverdict⟩
    · exact htold.executions runId row code hold hfailed hcode
    · rw [hfailed, hcode] at hverdict
      cases call with
      | finalizeFailed other otherCode token =>
        simp only [WorkflowCall.verdict, Option.some.injEq, Prod.mk.injEq] at hverdict
        obtain ⟨rfl, -, -, -, rfl⟩ := hverdict
        exact htruthful.execution _ _ token rfl
      | finalizeReady | finalizeBlocked =>
        simp only [WorkflowCall.verdict, Option.some.injEq, Prod.mk.injEq] at hverdict
        cases hverdict.2.1
      | _ => cases hverdict

/-- The Run tables change through a call of the Run store. -/
theorem runChange_of_perform {call : Call} {reply : call.Reply}
    (hok : call.perform hasher db reading = .ok (reply, after)) :
    after.runs = db.runs ∨ ∃ runCall, call = .run runCall ∧ RunChange db reading runCall after := by
  cases call with
  | run call => exact .inr ⟨call, rfl, change_of_perform hok⟩
  | memory call => exact .inl (onlyMemory_of_memory hok).1.1
  | workflow call => exact .inl (sameRunTables_of_workflow (workflowChange_of_perform hok)).1

theorem loopsEnded_of_perform {call : Call} {reply : call.Reply} (hended : LoopsEnded db)
    (hcompletes : CompletesEnded db call)
    (hok : call.perform hasher db reading = .ok (reply, after)) :
    LoopsEnded after := by
  have happly : Request.apply hasher db ⟨reading, call⟩ = after := apply_of_ok hok
  have hages : Ages db after := happly ▸ ages_apply _
  intro runId row hfind hcompleted
  refine LoopEnded.mono ?_ hages
  rcases runChange_of_perform hok with hsame | ⟨runCall, hcall, hchange⟩
  · exact hended runId row (hsame ▸ hfind) hcompleted
  · rcases completed_of_run hchange hfind hcompleted with hold | ⟨run, token, rfl, rfl, -⟩
    · exact hended runId row hold hcompleted
    · exact hcompletes run token hcall

/-- A truthful call keeps the reports true. -/
theorem told_of_perform {call : Call} {reply : call.Reply} (htold : Told db)
    (htruthful : Truthful db call) (hok : call.perform hasher db reading = .ok (reply, after)) :
    Told after := by
  have happly : Request.apply hasher db ⟨reading, call⟩ = after := apply_of_ok hok
  have hages : Ages db after := happly ▸ ages_apply _
  constructor
  case executions =>
    intro runId row code hfind hfailed hcode
    exact (executions_of_perform htold htruthful hok hfind hfailed hcode).mono hages
  case failed =>
    intro runId row code hfind hfailed hcode
    refine TrueCode.mono ?_ hages
    rcases runChange_of_perform hok with hsame | ⟨runCall, hcall, hchange⟩
    · exact htold.failed runId row code (hsame ▸ hfind) hfailed hcode
    · rcases failed_of_run hchange hfind hfailed with hold | ⟨other, hother, hconflict | hfails⟩
      · exact htold.failed runId row code hold hfailed hcode
      · obtain rfl : other = code := Option.some.inj (hother.symm.trans hcode)
        exact hconflict ▸ trueCode_conflict db runId
      · obtain rfl : other = code := Option.some.inj (hother.symm.trans hcode)
        exact htruthful.failed runCall runId _ hcall hfails
  case completed => exact loopsEnded_of_perform htold.completed htruthful.completed hok

/-- A warranted code tells the truth. -/
theorem Warranted.trueCode {code : String} (hwarranted : Warranted manager claim history code)
    (hruntimes : PlainRuntimes manager) (hhistory : PlainHistory history) (hclaim : claim ∈ claims)
    (hone : OneRuntime manager claims) (hattested : Attested claim.run.runId history db)
    (hsound : Sound manager claims db) (htold : Told db)
    (huncontested : Uncontested claim.run.runId history) :
    TrueCode db claim.run.runId code := by
  intro status hreported
  have hnone {other : ExternalActionStatus} (hplainCode : reportedStatus code = none) :
      ∃ stepId, ActionIn db claim.run.runId stepId other := by
    rw [hplainCode] at hreported
    cases hreported
  cases hwarranted status hreported with
  | action stepId hreports =>
    exact ⟨stepId, hattested.reports hreports (reportedStatus_terminal hreported)⟩
  | readOnly stepId hcode =>
    exact hnone (hcode.reportedStatus_eq hclaim hone hattested hsound huncontested)
  | execution deed row hdeed hshows hfailed hcode =>
    obtain ⟨now, hnow, hfinal⟩ := (hattested deed hdeed).execution row hshows
    obtain rfl := hfinal (by rw [hfailed]; rfl)
    exact htold.executions _ now code hnow hfailed hcode status hreported
  | planner evidenceId payload hevidenced hcode =>
    obtain ⟨event, hmem, -, htype, rfl⟩ := (hattested.recorded hevidenced).mem
    exact hnone ((hsound.events event hmem).planner htype code hcode)
  | evaluator decision observations failure hdeed hcode =>
    have hplain := hhistory decision observations failure hdeed
    rw [hcode] at hplain
    exact hnone hplain
  | runtime registration hregistration hforeign =>
    exact hnone (hruntimes claim.run registration code hregistration hforeign)

theorem completesEnded_of_mayPerform {call : Call}
    (hmay : MayPerform manager claim history (.store call))
    (hconducted : Conducted manager claim history db) : CompletesEnded db call := by
  rintro run token rfl
  obtain ⟨hrun, -, hconcluded⟩ := hmay
  rw [hrun]
  exact hconducted.attested.concluded hconcluded

/-- An attempt that keeps to its conduct makes truthful calls. -/
theorem truthful_of_mayPerform {call : Call} {reply : call.Reply}
    (hmay : MayPerform manager claim history (.store call)) (hruntimes : PlainRuntimes manager)
    (hhistory : PlainHistory history) (hclaim : claim ∈ claims) (hone : OneRuntime manager claims)
    (hconducted : Conducted manager claim history db) (hsound : Sound manager claims db)
    (htold : Told db) (hok : call.perform hasher db reading = .ok (reply, after)) :
    Truthful db call := by
  have hcode {code : String} (hwarranted : Warranted manager claim history code)
      (hheld : HoldsLease db claim.run.runId claim.leaseToken) :
      TrueCode db claim.run.runId code :=
    hwarranted.trueCode hruntimes hhistory hclaim hone hconducted.attested hsound htold
      (hconducted.current.uncontested hheld)
  constructor
  case execution =>
    rintro runId code token rfl
    obtain ⟨rfl, rfl, hwarranted⟩ := hmay
    have hpassed : WorkflowCall.PassedFence db reading
        (.finalizeFailed claim.run.runId code (some claim.leaseToken)) :=
      passedFence_of_perform hok
    exact hcode hwarranted (holdsLease_of_passed hpassed rfl)
  case failed =>
    rintro runCall runId code rfl ⟨run, token, error, traceback, allow, rfl, rfl, hheld⟩
    obtain ⟨hrun, rfl, hwarranted⟩ := hmay
    rw [hrun] at hheld ⊢
    exact hcode hwarranted hheld
  case completed => exact completesEnded_of_mayPerform hmay hconducted

/-- A control call reports nothing. -/
theorem truthful_of_control {call : Call} (hcontrol : isControlCall call = true) :
    Truthful db call where
  execution := by
    rintro runId code token rfl
    cases hcontrol
  failed := by
    rintro runCall runId code rfl ⟨run, token, error, traceback, allow, rfl, -⟩
    cases hcontrol
  completed := by
    rintro run token rfl
    cases hcontrol

theorem truthful_of_claim (db : Database) (ownerId : String) (duration : Int)
    (code : Option String) : Truthful db (.run (.claimNextRun ownerId duration code)) where
  execution := by
    rintro runId other token heq
    cases heq
  failed := by
    rintro runCall runId other heq ⟨run, token, error, traceback, allow, rfl, -⟩
    cases heq
  completed := by
    rintro run token heq
    cases heq

end Truth

/-! ### The calls of an event -/

/-- A call that changes the database in some event of the system: one that an attempt may perform, a
control call, or a claim. -/
inductive Issued (manager : RuntimeManager) (system : System) (log : List (Nat × Deed)) :
    Call → Prop
  | attempt {call : Call} (worker : Nat) (claim : RunLeaseClaim)
    (hclaim : system.claims[worker]? = some claim)
    (hmay : MayPerform manager claim (historyOf worker log) (.store call)) :
    Issued manager system log call
  | control {call : Call} (hcontrol : isControlCall call = true) : Issued manager system log call
  | claim (ownerId : String) (duration : Int) (code : Option String) :
    Issued manager system log (.run (.claimNextRun ownerId duration code))

/-- An event leaves the database as it is or performs one issued call. -/
theorem issued_of_next {hasher : Hasher} {manager : RuntimeManager} {system : System}
    {log : List (Nat × Deed)} (hinv : AttemptInv manager system log) (label : Label) :
    (system.next hasher manager label).world.db = system.world.db ∨
      ∃ call reading, ∃ reply : call.Reply, Issued manager system log call ∧
        call.perform hasher system.world.db reading =
          .ok (reply, (system.next hasher manager label).world.db) := by
  cases label with
  | work worker response =>
    show (system.work hasher worker response).world.db = _ ∨ _
    rcases work_cases hasher system worker response with ⟨hsame, -⟩ |
      ⟨op, hscope, next, answer, world, hworker, hperform, hnext, -⟩
    · exact .inl (congrArg (fun other ↦ other.world.db) hsame)
    · show (system.work hasher worker response).world.db = _ ∨ ∃ call reading,
        ∃ reply : call.Reply, Issued manager system log call ∧
          call.perform hasher system.world.db reading =
            .ok (reply, (system.work hasher worker response).world.db)
      rw [hnext]
      obtain ⟨hstep, -⟩ := deedStep_of_perform hperform
      obtain ⟨claim, hclaim, hmay, -⟩ := hinv.programs worker _ hworker
      rcases hstep.cases with hsame | ⟨call, reading, reply, rfl, hok⟩
      · exact .inl hsame
      · exact .inr ⟨call, reading, reply, .attempt worker claim hclaim hmay, hok⟩
  | crash worker => exact .inl rfl
  | claim reading ownerId duration =>
    simp only [System.next, System.claim]
    split
    · next claim after hclaim =>
      exact .inr ⟨_, reading, _, .claim ownerId duration _, hclaim⟩
    · next after hclaim => exact .inr ⟨_, reading, _, .claim ownerId duration _, hclaim⟩
    · exact .inl rfl
  | control reading call =>
    simp only [System.next]
    split_ifs with hcontrol
    · cases hperform : call.perform hasher system.world.db reading with
      | error error => exact .inl (apply_of_error hperform)
      | ok result =>
        refine .inr ⟨call, reading, result.1, .control hcontrol, ?_⟩
        have happly : Request.apply hasher system.world.db ⟨reading, call⟩ = result.2 :=
          apply_of_ok hperform
        show call.perform hasher system.world.db reading =
          .ok (result.1, Request.apply hasher system.world.db ⟨reading, call⟩)
        rw [happly]
        exact hperform
    · exact .inl rfl
  | applyEffect index => exact .inl rfl

/-- The loop of a COMPLETED Run has ended, whatever codes the domain's own code raises. -/
theorem loopsEnded_run {hasher : Hasher} {manager : RuntimeManager} {labels : List Label}
    (hadmits : (systemMachine hasher manager).Admits FreshLeases System.init labels) :
    LoopsEnded ((systemMachine hasher manager).run System.init labels).world.db := by
  refine ((systemMachine hasher manager).invariant_log
    (fun system log ↦ AttemptInv manager system log ∧ LoopsEnded system.world.db)
    (fun system log label hinv hfresh ↦ ⟨hinv.1.next hfresh, ?_⟩)
    ⟨attemptInv_init manager, told_empty.completed⟩ hadmits).2
  show LoopsEnded (system.next hasher manager label).world.db
  rcases issued_of_next hinv.1 label with hsame | ⟨call, reading, reply, hissued, hok⟩
  · rw [hsame]
    exact hinv.2
  · refine loopsEnded_of_perform hinv.2 ?_ hok
    cases hissued with
    | attempt worker claim hclaim hmay =>
      exact completesEnded_of_mayPerform hmay (hinv.1.conducted worker claim hclaim)
    | control hcontrol => exact (truthful_of_control hcontrol).completed
    | claim ownerId duration code => exact (truthful_of_claim _ ownerId duration code).completed

/-! ### The invariant -/

/-- The reports are true, and no evaluator raised a code of an external action. -/
structure OutcomeInv (manager : RuntimeManager) (system : System) (log : List (Nat × Deed)) :
    Prop where
  attempt : AttemptInv manager system log
  told : Told system.world.db
  plain : ∀ worker, PlainHistory (historyOf worker log)

section Outcome

variable {hasher : Hasher} {manager : RuntimeManager} {system : System}
  {log : List (Nat × Deed)}

theorem outcomeInv_init (manager : RuntimeManager) : OutcomeInv manager System.init [] where
  attempt := attemptInv_init manager
  told := told_empty
  plain worker decision observations failure hdeed := by cases hdeed

/-- What a worker performs in a plain event. -/
theorem plain_of_perform {world next : World} {worker : Nat} {op : Op} {response : Response}
    {answer : Except Failure op.Answer}
    (hperform : world.perform hasher worker op response = some (answer, next))
    (hplain : PlainEvaluation (.work worker response)) : PlainHistory [⟨op, answer⟩] := by
  intro decision observations failure hdeed
  cases List.mem_singleton.mp hdeed
  cases response with
  | evaluation given =>
    obtain ⟨rfl, -⟩ := Prod.mk.inj (Option.some.inj hperform)
    exact hplain
  | _ => cases hperform

theorem PlainHistory.snoc {worker other : Nat} {deed : Deed}
    (hplain : PlainHistory (historyOf worker log)) (hdeed : PlainHistory [deed]) :
    PlainHistory (historyOf worker (log ++ [(other, deed)])) := by
  rw [historyOf_snoc]
  by_cases heq : other = worker
  · rw [if_pos heq]
    intro decision observations failure hmem
    rcases List.mem_append.mp hmem with hold | hlast
    · exact hplain decision observations failure hold
    · exact hdeed decision observations failure hlast
  · rw [if_neg heq]
    exact hplain

/-- Every plain event keeps the reports true. -/
theorem OutcomeInv.told_next (hinv : OutcomeInv manager system log)
    (hruntimes : PlainRuntimes manager) (label : Label) :
    Told (system.next hasher manager label).world.db := by
  rcases issued_of_next hinv.attempt label with hsame | ⟨call, reading, reply, hissued, hok⟩
  · rw [hsame]
    exact hinv.told
  · refine told_of_perform hinv.told ?_ hok
    cases hissued with
    | attempt worker claim hclaim hmay =>
      exact truthful_of_mayPerform hmay hruntimes (hinv.plain worker) (List.mem_of_getElem? hclaim)
        hinv.attempt.one (hinv.attempt.conducted worker claim hclaim) hinv.attempt.sound hinv.told
        hok
    | control hcontrol => exact truthful_of_control hcontrol
    | claim ownerId duration code => exact truthful_of_claim _ ownerId duration code

theorem OutcomeInv.next (hinv : OutcomeInv manager system log) (hruntimes : PlainRuntimes manager)
    {label : Label} (hfresh : FreshLeases system label) (hplain : PlainEvaluation label) :
    OutcomeInv manager (system.next hasher manager label)
      (log ++ deeds hasher system label) where
  attempt := hinv.attempt.next hfresh
  told := hinv.told_next hruntimes label
  plain other := by
    cases label with
    | work worker response =>
      rcases work_cases hasher system worker response with ⟨-, hnone⟩ |
        ⟨op, hscope, next, answer, world, hworker, hperform, -, hdeeds⟩
      · rw [hnone, List.append_nil]
        exact hinv.plain other
      · rw [hdeeds]
        exact (hinv.plain other).snoc (plain_of_perform hperform hplain)
    | crash | claim | control | applyEffect =>
      show PlainHistory (historyOf other (log ++ []))
      rw [List.append_nil]
      exact hinv.plain other

/-- The reports are true after every run with fresh lease tokens and plain evaluators. -/
theorem outcomeInv_run (hruntimes : PlainRuntimes manager) {labels : List Label}
    (hadmits : (systemMachine hasher manager).Admits
      (fun system label ↦ FreshLeases system label ∧ PlainEvaluation label) System.init labels) :
    OutcomeInv manager ((systemMachine hasher manager).run System.init labels)
      ((systemMachine hasher manager).log (deeds hasher) System.init labels) :=
  (systemMachine hasher manager).invariant_log (OutcomeInv manager)
    (fun _ _ _ hinv hguard ↦ hinv.next hruntimes hguard.1 hguard.2) (outcomeInv_init manager)
    hadmits

end Outcome

/-! ### The reported outcome -/

/-- The reported outcome agrees with the ledger. Whatever crashes, takeovers, stale workers, storage
exceptions, cancellations and provider answers there were: if a Run is FAILED with a code that
speaks of an external action, one of its actions is in the status that the code tells of; if it is
COMPLETED, all its actions are SUCCEEDED; and a tool result in the log that carries such a code is
about an action of its Run in that status, while one that reports a completed step is about a step
that was completed. -/
theorem reported_outcome_agrees (hasher : Hasher) (manager : RuntimeManager)
    (hruntimes : PlainRuntimes manager) (labels : List Label)
    (hadmits : (systemMachine hasher manager).Admits
      (fun system label ↦ FreshLeases system label ∧ PlainEvaluation label) System.init labels) :
    let db := ((systemMachine hasher manager).run System.init labels).world.db
    (∀ runId run, db.runs.find runId = some run →
      (run.status = .failed → ∀ code status, run.errorCode = some code →
        reportedStatus code = some status →
          ∃ stepId action, db.externalActions.find (runId, stepId) = some action ∧
            action.status = status) ∧
      (run.status = .completed → ∀ stepId action,
        db.externalActions.find (runId, stepId) = some action → action.status = .succeeded)) ∧
    ∀ event ∈ db.workflowEvents, event.eventType = "tool.result" → ∀ stepId,
      event.payload.getD "step_id" = .str stepId →
      (∀ code status, event.payload.getD "error_code" = .str code →
        reportedStatus code = some status →
          ∃ action, db.externalActions.find (event.runId, stepId) = some action ∧
            action.status = status) ∧
      (event.payload.getD "status" = .str "completed" →
        ∃ step, db.toolCalls.find (event.runId, stepId) = some step ∧
          step.status = .completed) := by
  intro db
  have hinv := outcomeInv_run hruntimes hadmits
  have hsound := hinv.attempt.sound
  refine ⟨fun runId run hrun ↦ ⟨fun hfailed code status hcode hreported ↦ ?_,
    fun hcompleted stepId action hfind ↦ ?_⟩, fun event hmem htype stepId hstep ↦
      ⟨fun code status hcode hreported ↦ ?_, fun hstatus ↦ ?_⟩⟩
  · obtain ⟨stepId, action, hfind, hstatus⟩ :=
      hinv.told.failed runId run code hrun hfailed hcode status hreported
    exact ⟨stepId, action, hfind, hstatus⟩
  · exact hsound.succeeded (hinv.told.completed runId run hrun hcompleted) hfind
  · obtain ⟨row, hrow, hrowStatus⟩ :=
      (hsound.events event hmem).result htype stepId code status hstep hcode hreported
    exact ⟨row, hrow, hrowStatus⟩
  · rcases (hsound.events event hmem).completed htype stepId hstep hstatus with
      hcompleted | ⟨action, hfind, hsucceeded⟩
    · exact hcompleted
    · obtain ⟨step, hparent, hagrees⟩ := (hsound.evidence.ledger.rows _ action hfind).parent
      exact ⟨step, hparent, (hagrees.succeeded.mp hsucceeded).1⟩

/-- The attempt of `sampleDenial` records the denial and fails its Run. -/
def sampleFailure : List Label :=
  sampleDenial ++ List.replicate 15 (storeStep 0 "b") ++ [.work 0 .noted, .work 0 (.flag false)] ++
    List.replicate 2 (storeStep 0 "b")

theorem sampleManager_plain : PlainRuntimes sampleManager := by
  intro run registration code hregistration hforeign
  simp only [RuntimeManager.registrationFor, sampleManager] at hregistration
  split_ifs at hregistration
  obtain rfl := Except.ok.inj hregistration
  obtain ⟨failure, -, ⟨input, hraises⟩ | ⟨state, input, hraises⟩ | ⟨state, input, result, hraises⟩ |
    ⟨policy, state, memories, hmemory, -⟩⟩ := hforeign
  · cases hraises
  · cases hraises
  · cases hraises
  · cases hmemory

set_option maxRecDepth 10000 in
/-- The Run of a denied action is FAILED with the code of its action. -/
theorem denied_run_reports_its_action :
    let db := ((systemMachine sampleHasher sampleManager).run System.init sampleFailure).world.db
    ((db.runs.find "run_1").map fun run ↦ (run.status, run.errorCode)) =
        some (.failed, some "external_action_failed") ∧
      ∃ stepId action, db.externalActions.find ("run_1", stepId) = some action ∧
        action.status = .failed := by
  intro db
  have hadmits : (systemMachine sampleHasher sampleManager).Admits
      (fun system label ↦ FreshLeases system label ∧ PlainEvaluation label) System.init
        sampleFailure := by decide +kernel
  have hrow : ((db.runs.find "run_1").map fun run ↦ (run.status, run.errorCode)) =
      some (.failed, some "external_action_failed") := by decide +kernel
  obtain ⟨run, hrun, hcolumns⟩ := Option.map_eq_some_iff.mp hrow
  obtain ⟨hstatus, hcode⟩ := Prod.mk.inj hcolumns
  refine ⟨hrow, ?_⟩
  exact ((reported_outcome_agrees sampleHasher sampleManager sampleManager_plain sampleFailure
    hadmits).1 "run_1" run hrun).1 hstatus _ .failed hcode rfl

end AgentRuntime.Execution
