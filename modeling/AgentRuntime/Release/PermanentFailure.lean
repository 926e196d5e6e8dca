import AgentRuntime.Release.Calls

/-!
# Permanent failures across calls

A call that recorded a permanent failure raises and then finalizes the execution FAILED. When it is
killed in between, the ledger only holds a FAILED step with an attempt count, and the next call may
claim the step again. `permanentFailure_final` says that this is the only way: as long as every call
starts in a `Settled` state, in which each recorded failure was the last attempt allowed or the
execution is already FAILED, no tool is entered again after its permanent failure, and the execution
is never decided READY or BLOCKED.

The proof is one weakest precondition for `run`. While a call works on a step, `Open` says which
steps failed for good and that the ledger refuses to claim them; so a call that has gone through all
steps knows that there are none.
-/

set_option autoImplicit false
set_option relaxedAutoImplicit false

namespace AgentRuntime.Release

open Library Store Execution

/-! ### The property -/

/-- A permanent failure of the step was recorded. -/
def Permanent (world : ReleaseWorld) (stepId : String) : Prop :=
  .failedPermanently stepId ∈ world.history

/-- No tool is entered for a step after its permanent failure. -/
def NoReentry (history : List Happening) : Prop :=
  ∀ before after stepId, history = before ++ .failedPermanently stepId :: after →
    ∀ attempt, .entered stepId attempt ∉ after

/-- The execution of the Run is running or was finalized FAILED. -/
def Undecided (runId : String) (db : Database) : Prop :=
  ∃ row, db.executions.find runId = some row ∧ (row.status = .running ∨ row.status = .failed)

/-- Permanent failures are final. -/
structure PermanentIsFinal (runId : String) (world : ReleaseWorld) : Prop where
  noReentry : NoReentry world.history
  undecided : ∀ stepId, Permanent world stepId → Undecided runId world.db

/-- Each permanent failure so far was the last attempt allowed, or the execution is FAILED. -/
def Settled (runId : String) (world : ReleaseWorld) : Prop :=
  ∀ stepId, Permanent world stepId →
    (∃ row, world.db.executions.find runId = some row ∧ row.status = .failed) ∨
      ∃ row, world.db.toolCalls.find (runId, stepId) = some row ∧ maxAttempts ≤ row.attemptCount

/-- Calls start in settled states. -/
def StartsSettled (runId : String) (system : CallSystem) : CallLabel → Prop
  | .start _ _ => Settled runId system.world
  | _ => True

/-! ### Histories -/

/-- One more event keeps the order, unless it enters a tool after its failure. -/
theorem NoReentry.append {history : List Happening} (hfinal : NoReentry history)
    {happening : Happening}
    (hnew : ∀ stepId attempt, happening = .entered stepId attempt →
      .failedPermanently stepId ∉ history) : NoReentry (history ++ [happening]) := by
  intro before after stepId hsplit attempt hmem
  rcases List.eq_nil_or_concat after with rfl | ⟨rest, last, rfl⟩
  · cases hmem
  · have hparts : history ++ [happening] =
        (before ++ .failedPermanently stepId :: rest) ++ [last] := by
      rw [hsplit]
      simp
    obtain ⟨hrest, hlast⟩ := List.append_inj' hparts rfl
    obtain rfl := List.singleton_inj.mp hlast
    rw [List.concat_eq_append] at hmem
    rcases List.mem_append.mp hmem with hbefore | hnewest
    · exact hfinal before rest stepId hrest attempt hbefore
    · have hentered := (List.mem_singleton.mp hnewest).symm
      refine hnew stepId attempt hentered ?_
      rw [hrest]
      simp

/-! ### What calls keep -/

/-- The ids of the steps. -/
def stepIds : List String := stepDefinitions.map StepDefinition.stepId

/-- What every step of a call keeps. -/
structure Final (runId : String) (world : ReleaseWorld) : Prop
    extends PermanentIsFinal runId world where
  known : ∀ stepId, Permanent world stepId → stepId ∈ stepIds
  failed : ∀ stepId, Permanent world stepId →
    ∃ row, world.db.toolCalls.find (runId, stepId) = some row ∧ row.status = .failed

/-- The execution runs and the ledger refuses to claim the steps that failed for good. -/
structure OpenLedger (runId : String) (gone : String → Prop) (db : Database) : Prop where
  running : ∃ row, db.executions.find runId = some row ∧ row.status = .running
  refused : ∀ stepId, gone stepId → ∃ row, db.toolCalls.find (runId, stepId) = some row ∧
    row.status = .failed ∧ maxAttempts ≤ row.attemptCount

/-- The steps that failed for good are the given ones, and the ledger is open for the others. -/
structure Open (runId : String) (gone : String → Prop) (world : ReleaseWorld) : Prop
    extends OpenLedger runId gone world.db where
  gone_iff : ∀ stepId, Permanent world stepId ↔ gone stepId

/-- Other processes leave the ledger of the Run alone. -/
structure Undisturbed (runId : String) (world later : ReleaseWorld) : Prop where
  rows : SameRows runId none world.db later.db
  history : later.history = world.history
  answers : later.answers = world.answers

/-- What one call may assume and must keep. -/
def callProtocol (workflow : ReleaseValidationWorkflow) (runId : String) (caller : Nat) :
    Protocol Unit ReleaseOp.Answer ReleaseFailure ReleaseWorld where
  step _ := Answers workflow runId caller
  inv := Final runId
  rely _ := Undisturbed runId
  guar _ _ _ := True
  rely_refl _ _ := ⟨.refl _ _ _, rfl, rfl⟩
  rely_trans _ _ _ _ hfirst hsecond :=
    ⟨hfirst.rows.trans hsecond.rows, hsecond.history.trans hfirst.history,
      hsecond.answers.trans hfirst.answers⟩
  guar_rely thread other _ _ hne _ := absurd (Subsingleton.elim thread other) hne

variable {workflow : ReleaseValidationWorkflow} {runId stepId : String} {caller : Nat}
  {world later : ReleaseWorld} {gone : String → Prop} {db after : Database}

theorem OpenLedger.transfer (hopen : OpenLedger runId gone db)
    (hrows : SameRows runId none db after) : OpenLedger runId gone after := by
  obtain ⟨⟨row, hfind, hrunning⟩, hrefused⟩ := hopen
  refine ⟨⟨row, hrows.execution.trans hfind, hrunning⟩, fun other hgone ↦ ?_⟩
  obtain ⟨step, hstep, hfailed⟩ := hrefused other hgone
  exact ⟨step, (hrows.steps other (by simp)).trans hstep, hfailed⟩

theorem Open.transfer (hopen : Open runId gone world) (hquiet : Undisturbed runId world later) :
    Open runId gone later := by
  refine ⟨hopen.toOpenLedger.transfer hquiet.rows, fun other ↦ ?_⟩
  unfold Permanent
  rw [hquiet.history]
  exact hopen.gone_iff other

/-- An operation on a step that did not fail for good keeps the ledger open. -/
theorem OpenLedger.step (hopen : OpenLedger runId gone db) (hlive : ¬ gone stepId)
    (hrows : SameRows runId (some stepId) db after) : OpenLedger runId gone after := by
  obtain ⟨⟨row, hfind, hrunning⟩, hrefused⟩ := hopen
  refine ⟨⟨row, hrows.execution.trans hfind, hrunning⟩, fun other hgone ↦ ?_⟩
  obtain ⟨step, hstep, hfailed⟩ := hrefused other hgone
  have hother : some stepId ≠ some other := by
    rintro ⟨⟩
    exact hlive hgone
  exact ⟨step, (hrows.steps other hother).trans hstep, hfailed⟩

/-- An open ledger without new events is final. -/
theorem final_of_open (hfinal : Final runId world)
    (hgone : ∀ stepId, Permanent world stepId ↔ gone stepId) (hopen : OpenLedger runId gone after) :
    Final runId { world with db := after } where
  noReentry := hfinal.noReentry
  undecided other hother := by
    obtain ⟨row, hfind, hrunning⟩ := hopen.running
    exact ⟨row, hfind, .inl hrunning⟩
  known := hfinal.known
  failed other hother := by
    obtain ⟨row, hfind, hfailed, -⟩ := hopen.refused other ((hgone other).mp hother)
    exact ⟨row, hfind, hfailed⟩

/-- Without permanent failures there is nothing to keep. -/
theorem final_of_clear (hclear : ∀ stepId, ¬ Permanent world stepId) : Final runId world where
  noReentry before after stepId hsplit := by
    refine absurd ?_ (hclear stepId)
    unfold Permanent
    rw [hsplit]
    simp
  undecided other hother := absurd hother (hclear other)
  known other hother := absurd hother (hclear other)
  failed other hother := absurd hother (hclear other)

/-! ### The operations of a call -/

/-- A postcondition for what a program returns; what it raises is up to the handler. -/
def Returning {α : Type} (holds : α → ReleaseWorld → Prop) (result : Except ReleaseFailure α)
    (later : ReleaseWorld) : Prop :=
  ∀ value, result = .ok value → holds value later

theorem wp_then {α β : Type} {holds : α → ReleaseWorld → Prop} {post : β → ReleaseWorld → Prop}
    {program : ReleaseProgram α} {rest : α → ReleaseProgram β}
    (hfirst : program.wp (callProtocol workflow runId caller) () (Returning holds) world)
    (hrest : ∀ value later, Final runId later → holds value later →
      (rest value).wp (callProtocol workflow runId caller) () (Returning post) later) :
    (program.bind rest).wp (callProtocol workflow runId caller) () (Returning post) world := by
  refine Program.wp_seq _ hfirst (fun value later hfinal hmiddle ↦ ?_) fun _ _ _ _ value hvalue ↦ ?_
  · exact hrest value later hfinal (hmiddle value rfl)
  · cases hvalue

theorem wp_raise {α : Type} {failure : ReleaseFailure} {holds : α → ReleaseWorld → Prop} :
    (Program.raise failure : ReleaseProgram α).wp (callProtocol workflow runId caller) ()
      (Returning holds) world := by
  intro later _ _ value hvalue
  cases hvalue

/-- Returning under a condition that other processes cannot break. -/
theorem wp_return {α : Type} {value : α} {holds : α → ReleaseWorld → Prop}
    (hholds : ∀ later, Undisturbed runId world later → holds value later) :
    (Program.done value : ReleaseProgram α).wp (callProtocol workflow runId caller) ()
      (Returning holds) world := by
  intro later hlater _ other hother
  rw [← Except.ok.inj hother]
  exact hholds later hlater

/-- The call does not record a permanent failure. -/
def Quiet (call : WorkflowCall) : Prop :=
  ∀ (workflow : ReleaseValidationWorkflow) (runId : String) (answer : Option ToolRun),
    permanentFailure workflow runId answer call = []

theorem record_of_quiet {call : WorkflowCall} (hquiet : Quiet call) (world : ReleaseWorld) :
    world.record workflow runId caller call after = { world with db := after } := by
  unfold ReleaseWorld.record
  rw [hquiet, List.append_nil]

/-- An operation that keeps the ledger open keeps everything; what its reply says holds of it. -/
theorem wp_quiet {call : WorkflowCall} (hquiet : Quiet call) (tells : call.Reply → Prop)
    (hopen : Open runId gone world)
    (hkeeps : ∀ db reading reply after, OpenLedger runId gone db →
      call.perform db reading = .ok (reply, after) → OpenLedger runId gone after ∧ tells reply) :
    (storeCall call).wp (callProtocol workflow runId caller) ()
      (Returning fun reply later ↦ Open runId gone later ∧ tells reply) world := by
  refine Program.wp_ask fun before answer after hrely hfinal hanswers ↦ ?_
  have hbefore : Open runId gone before := hopen.transfer hrely
  rcases answers_store hanswers with
    ⟨failure, rfl, rfl⟩ | ⟨reading, reply, db, hperform, rfl, hanswer⟩
  · refine ⟨hfinal, trivial, fun later _ _ reply hreply ↦ ?_⟩
    cases hreply
  · rw [record_of_quiet hquiet]
    obtain ⟨hafter, htells⟩ := hkeeps _ _ _ _ hbefore.toOpenLedger hperform
    have hnext : Open runId gone { before with db := db } := ⟨hafter, hbefore.gone_iff⟩
    refine ⟨final_of_open hfinal hbefore.gone_iff hafter, trivial,
      fun later hlater _ other hother ↦ ⟨hnext.transfer hlater, ?_⟩⟩
    rcases hanswer with rfl | ⟨message, rfl⟩
    · exact Except.ok.inj hother ▸ htells
    · cases hother

/-- Where no step failed for good, every operation but `fail_step` is harmless. -/
theorem wp_clear {call : WorkflowCall} (hquiet : Quiet call)
    (hclear : ∀ stepId, ¬ Permanent world stepId) (tells : call.Reply → Database → Prop)
    (hstable : ∀ reply db after, SameRows runId none db after → tells reply db → tells reply after)
    (htells : ∀ reading reply db after, SameRows runId none world.db db →
      call.perform db reading = .ok (reply, after) → tells reply after) :
    (storeCall call).wp (callProtocol workflow runId caller) ()
      (Returning fun reply later ↦ (∀ stepId, ¬ Permanent later stepId) ∧ tells reply later.db)
      world := by
  refine Program.wp_ask fun before answer after hrely hfinal hanswers ↦ ?_
  have hkept (state later : ReleaseWorld) (hhistory : state.history = world.history)
      (hlater : Undisturbed runId state later) : ∀ stepId, ¬ Permanent later stepId := by
    intro stepId hpermanent
    unfold Permanent at hpermanent
    rw [hlater.history, hhistory] at hpermanent
    exact hclear stepId hpermanent
  rcases answers_store hanswers with
    ⟨failure, rfl, rfl⟩ | ⟨reading, reply, db, hperform, rfl, hanswer⟩
  · refine ⟨hfinal, trivial, fun later _ _ reply hreply ↦ ?_⟩
    cases hreply
  · rw [record_of_quiet hquiet]
    have hnone : ∀ stepId, ¬ Permanent { before with db := db } stepId :=
      hkept { before with db := db } _ hrely.history ⟨.refl _ _ _, rfl, rfl⟩
    refine ⟨final_of_clear hnone, trivial, fun later hlater _ other hother ↦
      ⟨hkept { before with db := db } _ hrely.history hlater, ?_⟩⟩
    rcases hanswer with rfl | ⟨message, rfl⟩
    · rw [← Except.ok.inj hother]
      exact hstable _ _ _ hlater.rows (htells reading reply before.db db hrely.rows hperform)
    · cases hother

/-- A step that failed for good is not claimed. -/
theorem wp_claimStep {toolName inputHash : String} {token : Option String}
    (hopen : Open runId gone world) :
    (storeCall (.claimStep runId stepId toolName inputHash maxAttempts token)).wp
      (callProtocol workflow runId caller) ()
      (Returning fun (reply : ClaimResult) later ↦ Open runId gone later ∧
        (reply.outcome = .claimed ∨ reply.outcome = .cached ∨ reply.outcome = .alreadyRunning →
          ¬ gone stepId)) world := by
  refine wp_quiet (fun _ _ _ ↦ rfl) _ hopen fun db reading reply after hledger hperform ↦ ?_
  have hspec := claimStep_spec hperform
  by_cases hgone : gone stepId
  · obtain ⟨row, hfind, hfailed, hspent⟩ := hledger.refused stepId hgone
    rcases hspec with ⟨-, hstep, ⟨hclaimed, -, -, -, -, -, hfresh⟩ | ⟨rfl, -, hwhy⟩⟩
    · exfalso
      rcases hfresh with ⟨hnone, -⟩ | ⟨previous, hprevious, -, hbudget, -⟩
      · cases hnone.symm.trans hfind
      · obtain rfl := Option.some.inj (hprevious.symm.trans hfind)
        omega
    · obtain rfl := Option.some.inj (hstep.symm.trans hfind)
      refine ⟨hledger, fun houtcome ↦ ?_⟩
      rcases hwhy with ⟨hother, -⟩ | ⟨hother, -⟩ |
        ⟨-, -, ⟨-, hcompleted⟩ | ⟨-, -, hnot⟩ | ⟨hother, -⟩⟩
      · rw [hother] at houtcome
        simp at houtcome
      · rw [hother] at houtcome
        simp at houtcome
      · rw [hfailed] at hcompleted
        cases hcompleted
      · exact absurd hfailed hnot
      · rw [hother] at houtcome
        simp at houtcome
  · exact ⟨hledger.step hgone hspec.1, fun _ ↦ hgone⟩

/-- A tool is entered for a step that did not fail for good. -/
theorem wp_executeTool {attempt : Nat} {toolName : String} {arguments : Payload}
    (hopen : Open runId gone world) (hlive : ¬ gone stepId) :
    (Program.ask (ReleaseOp.executeTool stepId attempt toolName arguments) rfl :
        ReleaseProgram ToolRun).wp (callProtocol workflow runId caller) ()
      (Returning fun execution later ↦ Open runId gone later ∧
        later.answers caller = some execution) world := by
  refine Program.wp_ask fun before answer after hrely hfinal hanswers ↦ ?_
  have hbefore : Open runId gone before := hopen.transfer hrely
  obtain ⟨kept, rfl, hanswer⟩ := answers_executeTool hanswers
  have hpermanent (other : String) : Permanent (before.enter caller stepId attempt kept) other ↔
      Permanent before other := by
    simp [Permanent, ReleaseWorld.enter]
  have hnext : Open runId gone (before.enter caller stepId attempt kept) :=
    ⟨hbefore.toOpenLedger, fun other ↦ (hpermanent other).trans (hbefore.gone_iff other)⟩
  have hordered : NoReentry (before.enter caller stepId attempt kept).history := by
    refine hfinal.noReentry.append ?_
    rintro other count ⟨⟩ hmem
    exact hlive ((hbefore.gone_iff stepId).mp hmem)
  refine ⟨⟨⟨hordered, fun other hother ↦ hfinal.undecided other ((hpermanent other).mp hother)⟩,
    fun other hother ↦ hfinal.known other ((hpermanent other).mp hother),
    fun other hother ↦ hfinal.failed other ((hpermanent other).mp hother)⟩, trivial,
    fun later hlater _ execution hexecution ↦ ⟨hnext.transfer hlater, ?_⟩⟩
  rcases hanswer with ⟨other, rfl, rfl⟩ | ⟨typeName, message, rfl, rfl⟩
  · rw [hlater.answers, ← Except.ok.inj hexecution]
    exact Function.update_self _ _ _
  · cases hexecution

/-- `fail_step` for a run of the tool: unless it was transient, the step is gone for good. -/
theorem wp_failStep {attemptToken code : String} {token : Option String} {execution : ToolRun}
    (hopen : Open runId gone world) (hlive : ¬ gone stepId) (hknown : stepId ∈ stepIds)
    (hanswer : world.answers caller = some execution) :
    (storeCall (.failStep runId stepId attemptToken code token)).wp
      (callProtocol workflow runId caller) ()
      (Returning fun _ later ↦ workflow.isTransientFailure execution = true →
        Open runId gone later) world := by
  refine Program.wp_ask fun before answer after hrely hfinal hanswers ↦ ?_
  have hbefore : Open runId gone before := hopen.transfer hrely
  rcases answers_store hanswers with
    ⟨failure, rfl, rfl⟩ | ⟨reading, reply, db, hperform, rfl, -⟩
  · exact ⟨hfinal, trivial, fun later hlater _ _ _ _ ↦ hbefore.transfer hlater⟩
  · obtain ⟨hrows, row, -, -, hstep⟩ := finalizeStep_spec hperform
    have hledger : OpenLedger runId gone db := hbefore.toOpenLedger.step hlive hrows
    have hkept : before.answers caller = some execution := by
      rw [hrely.answers]
      exact hanswer
    by_cases htransient : workflow.isTransientFailure execution = true
    · have hrecord : before.record workflow runId caller
          (.failStep runId stepId attemptToken code token) db = { before with db := db } := by
        simp [ReleaseWorld.record, permanentFailure, hkept, htransient]
      rw [hrecord]
      have hnext : Open runId gone { before with db := db } := ⟨hledger, hbefore.gone_iff⟩
      exact ⟨final_of_open hfinal hbefore.gone_iff hledger, trivial,
        fun later hlater _ _ _ _ ↦ hnext.transfer hlater⟩
    · have hrecord : before.record workflow runId caller
          (.failStep runId stepId attemptToken code token) db =
            { before with db := db, history := before.history ++ [.failedPermanently stepId] } := by
        simp [ReleaseWorld.record, permanentFailure, hkept, htransient]
      rw [hrecord]
      have hpermanent (other : String)
          (hother : Permanent { before with
            db := db, history := before.history ++ [.failedPermanently stepId] } other) :
          Permanent before other ∨ other = stepId := by
        simpa [Permanent] using hother
      refine ⟨⟨⟨?_, fun other hother ↦ ?_⟩, fun other hother ↦ ?_, fun other hother ↦ ?_⟩, trivial,
        fun _ _ _ _ _ hyes ↦ absurd hyes htransient⟩
      · refine hfinal.noReentry.append ?_
        rintro other count ⟨⟩
      · obtain ⟨execution, hfind, hrunning⟩ := hledger.running
        exact ⟨execution, hfind, .inl hrunning⟩
      · rcases hpermanent other hother with hold | rfl
        · exact hfinal.known other hold
        · exact hknown
      · rcases hpermanent other hother with hold | rfl
        · obtain ⟨step, hfind, hfailed, -⟩ :=
            hledger.refused other ((hbefore.gone_iff other).mp hold)
          exact ⟨step, hfind, hfailed⟩
        · exact ⟨_, hstep, rfl⟩

/-- `complete_step` of a step that did not fail for good. -/
theorem wp_completeStep {attemptToken : String} {result : Json} {token : Option String}
    (hopen : Open runId gone world) (hlive : ¬ gone stepId) :
    (storeCall (.completeStep runId stepId attemptToken result token)).wp
      (callProtocol workflow runId caller) ()
      (Returning fun _ later ↦ Open runId gone later ∧ True) world := by
  refine wp_quiet (fun _ _ _ ↦ rfl) _ hopen fun db reading reply after hledger hperform ↦ ?_
  exact ⟨hledger.step hlive (finalizeStep_spec hperform).1, trivial⟩

theorem wp_recoverInterruptedStep {token : Option String} (hopen : Open runId gone world)
    (hlive : ¬ gone stepId) :
    (storeCall (.recoverInterruptedStep runId stepId token)).wp
      (callProtocol workflow runId caller) ()
      (Returning fun _ later ↦ Open runId gone later ∧ True) world := by
  refine wp_quiet (fun _ _ _ ↦ rfl) _ hopen fun db reading reply after hledger hperform ↦ ?_
  exact ⟨hledger.step hlive (recoverInterruptedStep_spec hperform).1, trivial⟩

theorem wp_appendEvent {eventType : String} {payload : Payload} {token : Option String}
    (hopen : Open runId gone world) :
    (storeCall (.appendEvent runId eventType payload token)).wp
      (callProtocol workflow runId caller) ()
      (Returning fun _ later ↦ Open runId gone later ∧ True) world := by
  refine wp_quiet (fun _ _ _ ↦ rfl) _ hopen fun db reading reply after hledger hperform ↦ ?_
  obtain ⟨hexecutions, hsteps⟩ := appendEvent_spec hperform
  have hrows : SameRows runId none db after :=
    ⟨by rw [hexecutions], fun _ _ ↦ by rw [hsteps]⟩
  exact ⟨hledger.transfer hrows, trivial⟩

theorem wp_getExecution {source : String} (hopen : Open runId gone world) :
    (storeCall (.getExecution source)).wp (callProtocol workflow runId caller) ()
      (Returning fun _ later ↦ Open runId gone later ∧ True) world := by
  refine wp_quiet (fun _ _ _ ↦ rfl) _ hopen fun db reading reply after hledger hperform ↦ ?_
  obtain ⟨-, rfl⟩ := Prod.mk.inj (Except.ok.inj hperform)
  exact ⟨hledger, trivial⟩

/-- A step that failed for good is not reused. -/
theorem wp_reuseCompletedStep {source toolName inputHash : String} {token : Option String}
    (hopen : Open runId gone world) :
    (storeCall (.reuseCompletedStep source runId stepId toolName inputHash token)).wp
      (callProtocol workflow runId caller) ()
      (Returning fun (reply : StepReuseResult) later ↦ Open runId gone later ∧
        (reply.outcome ≠ .notReusable → ¬ gone stepId)) world := by
  refine wp_quiet (fun _ _ _ ↦ rfl) _ hopen fun db reading reply after hledger hperform ↦ ?_
  have hspec := reuseCompletedStep_spec hperform
  by_cases hgone : gone stepId
  · obtain ⟨row, hfind, hfailed, -⟩ := hledger.refused stepId hgone
    rcases hspec with ⟨-, ⟨rfl, hnot, -⟩ | ⟨sourceRow, -,
      ⟨rfl, step, hstep, ⟨hnot, -⟩ | ⟨-, -, hreusable⟩⟩ | ⟨-, hnone, -⟩⟩⟩
    · exact ⟨hledger, fun hother ↦ absurd hnot hother⟩
    · exact ⟨hledger, fun hother ↦ absurd hnot hother⟩
    · exfalso
      obtain rfl := Option.some.inj (hstep.symm.trans hfind)
      simp [ToolCallRow.reusable, hfailed] at hreusable
    · cases hnone.symm.trans hfind
  · exact ⟨hledger.step hgone hspec.1, fun _ ↦ hgone⟩

/-! ### The steps -/

section Steps

variable {call : CallArguments} {step : StepDefinition} {arguments : Payload}

theorem wp_runAttempt {attempt : Nat} {attemptToken : String} (hopen : Open runId gone world)
    (hlive : ¬ gone step.stepId) (hknown : step.stepId ∈ stepIds) :
    (workflow.runAttempt runId call step arguments attempt attemptToken).wp
      (callProtocol workflow runId caller) ()
      (Returning fun _ later ↦ Open runId gone later) world := by
  unfold ReleaseValidationWorkflow.runAttempt
  refine wp_then (wp_executeTool hopen hlive) fun execution later _ hentered ↦ ?_
  obtain ⟨hlater, hanswer⟩ := hentered
  split_ifs with hcompleted htransient
  · simp only [Program.discard_eq_bind, Program.bind_eq_bind, Program.bind_bind,
      Program.done_bind]
    refine wp_then (wp_completeStep hlater hlive) fun _ last _ hlast ↦ ?_
    cases execution.result with
    | none => exact wp_raise
    | some result => exact wp_return fun _ hquiet ↦ hlast.1.transfer hquiet
  · simp only [Program.discard_eq_bind, Program.bind_eq_bind, Program.bind_bind,
      Program.done_bind]
    refine wp_then (wp_failStep hlater hlive hknown hanswer) fun _ last _ hlast ↦ ?_
    exact wp_return fun _ hquiet ↦ (hlast htransient).transfer hquiet
  · simp only [Program.discard_eq_bind, Program.bind_eq_bind, Program.bind_bind,
      Program.done_bind]
    exact wp_then (wp_failStep hlater hlive hknown hanswer) fun _ _ _ _ ↦ wp_raise

theorem wp_reuseCached {record : ToolCallRow} (hopen : Open runId gone world) :
    (ReleaseValidationWorkflow.reuseCached runId call step record).wp
      (callProtocol workflow runId caller) ()
      (Returning fun _ later ↦ Open runId gone later) world := by
  unfold ReleaseValidationWorkflow.reuseCached
  cases record.resultJson with
  | none => exact wp_raise
  | some result =>
    simp only [Program.discard_eq_bind, Program.bind_eq_bind, Program.bind_bind,
      Program.done_bind]
    refine wp_then (wp_appendEvent hopen) fun _ later _ hlater ↦ ?_
    exact wp_return fun _ hquiet ↦ hlater.1.transfer hquiet

/-- `_run_step` returns only for a step that did not fail for good. -/
theorem wp_runStepRounds (hknown : step.stepId ∈ stepIds) (rounds : Nat) {world : ReleaseWorld}
    (hopen : Open runId gone world) :
    (workflow.runStepRounds runId call step arguments rounds).wp
      (callProtocol workflow runId caller) ()
      (Returning fun _ later ↦ Open runId gone later ∧ ¬ gone step.stepId) world := by
  induction rounds generalizing world with
  | zero => exact wp_raise
  | succ rounds ih =>
    unfold ReleaseValidationWorkflow.runStepRounds
    refine wp_then (wp_claimStep hopen) fun claim later _ hclaim ↦ ?_
    obtain ⟨hlater, hlive⟩ := hclaim
    obtain ⟨outcome, row, token⟩ := claim
    cases outcome with
    | cached =>
      have hgone : ¬ gone step.stepId := hlive (.inr (.inl rfl))
      refine Program.wp_mono (wp_reuseCached hlater) fun result last _ hlast value hvalue ↦ ?_
      exact ⟨hlast value hvalue, hgone⟩
    | inputMismatch => exact wp_raise
    | definitionMismatch => exact wp_raise
    | attemptsExhausted => exact wp_raise
    | alreadyRunning =>
      have hgone : ¬ gone step.stepId := hlive (.inr (.inr rfl))
      dsimp only
      split_ifs with hresume
      · simp only [Program.discard_eq_bind, Program.bind_eq_bind, Program.bind_bind,
          Program.done_bind]
        exact wp_then (wp_recoverInterruptedStep hlater hgone) fun _ _ _ hlast ↦ ih hlast.1
      · exact wp_raise
    | claimed =>
      have hgone : ¬ gone step.stepId := hlive (.inl rfl)
      cases token with
      | none => exact wp_raise
      | some attemptToken =>
        refine wp_then (wp_runAttempt hlater hgone hknown) fun result last _ hlast ↦ ?_
        cases result with
        | none => exact ih hlast
        | some value => exact wp_return fun _ hquiet ↦ ⟨hlast.transfer hquiet, hgone⟩

theorem wp_reuseStep {replay : SelectiveReplayRequest} (hopen : Open runId gone world) :
    (workflow.reuseStep runId call replay step arguments).wp (callProtocol workflow runId caller) ()
      (Returning fun result later ↦ Open runId gone later ∧
        (result.isSome = true → ¬ gone step.stepId)) world := by
  unfold ReleaseValidationWorkflow.reuseStep
  refine wp_then (wp_reuseCompletedStep hopen) fun reuse later _ hreuse ↦ ?_
  obtain ⟨hlater, hlive⟩ := hreuse
  obtain ⟨outcome, row⟩ := reuse
  cases outcome with
  | notReusable =>
    exact wp_return fun _ hquiet ↦ ⟨hlater.transfer hquiet, fun hsome ↦ by cases hsome⟩
  | copied | existing =>
    have hgone : ¬ gone step.stepId := hlive (by simp)
    cases row with
    | none => exact wp_raise
    | some row =>
      dsimp only
      cases row.resultJson with
      | none => exact wp_raise
      | some result => exact wp_return fun _ hquiet ↦ ⟨hlater.transfer hquiet, fun _ ↦ hgone⟩

theorem wp_ofExcept {α : Type} {value : Except ReleaseFailure α} (hopen : Open runId gone world) :
    (ReleaseValidationWorkflow.ofExcept value).wp (callProtocol workflow runId caller) ()
      (Returning fun _ later ↦ Open runId gone later) world := by
  cases value with
  | ok found => exact wp_return fun _ hquiet ↦ hopen.transfer hquiet
  | error failure => exact wp_raise

/-- The body of the loop returns only for a step that did not fail for good. -/
theorem wp_takeStep {manifest : ReleaseManifest} {loop : ReleaseValidationWorkflow.StepLoop}
    (hknown : step.stepId ∈ stepIds) (hopen : Open runId gone world) :
    (workflow.takeStep runId call manifest loop step).wp (callProtocol workflow runId caller) ()
      (Returning fun _ later ↦ Open runId gone later ∧ ¬ gone step.stepId) world := by
  have hexecute {state : ReleaseWorld} (hstate : Open runId gone state)
      (last : ReleaseValidationWorkflow.StepLoop) :
      ((workflow.runStep runId call step (step.buildArguments manifest)).bind fun result ↦
          (Program.done (last.executed call step.stepId result) :
            ReleaseProgram ReleaseValidationWorkflow.StepLoop)).wp
        (callProtocol workflow runId caller) ()
        (Returning fun _ later ↦ Open runId gone later ∧ ¬ gone step.stepId) state := by
    refine wp_then (wp_runStepRounds hknown _ hstate) fun _ later _ hlater ↦ ?_
    exact wp_return fun _ hquiet ↦ ⟨hlater.1.transfer hquiet, hlater.2⟩
  unfold ReleaseValidationWorkflow.takeStep
  refine wp_then (wp_ofExcept hopen) fun _ ready _ hready ↦ ?_
  cases call.replay with
  | none => exact hexecute hready _
  | some replay =>
    dsimp only
    split_ifs with hinvalid
    · exact hexecute hready _
    · refine wp_then (wp_reuseStep hready) fun result later _ hlater ↦ ?_
      cases result with
      | some found =>
        exact wp_return fun _ hquiet ↦ ⟨hlater.1.transfer hquiet, hlater.2 rfl⟩
      | none =>
        exact wp_then (wp_ofExcept hlater.1) fun _ _ _ hlast ↦ hexecute hlast _

/-- The loop returns only when none of its steps failed for good. -/
theorem wp_takeSteps {manifest : ReleaseManifest} {steps : List StepDefinition}
    {loop : ReleaseValidationWorkflow.StepLoop} {world : ReleaseWorld}
    (hknown : ∀ step ∈ steps, step.stepId ∈ stepIds) (hopen : Open runId gone world) :
    (workflow.takeSteps runId call manifest steps loop).wp (callProtocol workflow runId caller) ()
      (Returning fun _ later ↦ Open runId gone later ∧ ∀ step ∈ steps, ¬ gone step.stepId)
      world := by
  induction steps generalizing loop world with
  | nil => exact wp_return fun _ hquiet ↦ ⟨hopen.transfer hquiet, by simp⟩
  | cons step rest ih =>
    unfold ReleaseValidationWorkflow.takeSteps
    refine wp_then (wp_takeStep (hknown step List.mem_cons_self) hopen)
      fun next later _ hlater ↦ ?_
    refine Program.wp_mono (ih (fun other hmem ↦ hknown other (List.mem_cons_of_mem _ hmem))
      hlater.1) fun result last _ hlast value hvalue ↦ ?_
    obtain ⟨hlast, hrest⟩ := hlast value hvalue
    refine ⟨hlast, fun other hmem ↦ ?_⟩
    rcases List.mem_cons.mp hmem with rfl | hmem
    · exact hlater.2
    · exact hrest other hmem

end Steps

/-! ### One call -/

section Call

variable {call : CallArguments} {manifest : ReleaseManifest}

theorem wp_requestedSteps (hopen : Open runId gone world) :
    (ReleaseValidationWorkflow.requestedSteps runId call).wp
      (callProtocol workflow runId caller) ()
      (Returning fun _ later ↦ Open runId gone later) world := by
  unfold ReleaseValidationWorkflow.requestedSteps
  cases call.replay with
  | none => exact wp_return fun _ hquiet ↦ hopen.transfer hquiet
  | some replay =>
    refine wp_then ?_ fun _ _ _ hlater ↦ wp_ofExcept hlater
    unfold ReleaseValidationWorkflow.validateReplayRequest
    by_cases hself : replay.sourceRunId = runId
    · rw [if_pos hself]
      exact wp_raise
    · rw [if_neg hself]
      refine wp_then (wp_getExecution hopen) fun source later _ hlater ↦ ?_
      cases source with
      | none => exact wp_raise
      | some row =>
        dsimp only
        split_ifs with htype hstatus
        · exact wp_raise
        · exact wp_raise
        · exact wp_return fun _ hquiet ↦ hlater.1.transfer hquiet

/-- Nothing happens to what was decided before a permanent failure. -/
theorem wp_reuseTerminalResult {record : ExecutionRow}
    (hclear : ∀ stepId, ¬ Permanent world stepId) :
    (ReleaseValidationWorkflow.reuseTerminalResult runId call record).wp
      (callProtocol workflow runId caller) () (Returning fun _ _ ↦ True) world := by
  unfold ReleaseValidationWorkflow.reuseTerminalResult
  cases record.resultJson with
  | none => exact wp_raise
  | some json =>
    dsimp only
    cases parseResult json with
    | none => exact wp_raise
    | some result =>
      dsimp only
      split_ifs with hstatus
      · exact wp_raise
      · simp only [Program.discard_eq_bind, Program.bind_eq_bind, Program.bind_bind,
          Program.done_bind]
        refine wp_then (wp_clear (fun _ _ _ ↦ rfl) hclear (fun _ _ ↦ True) (fun _ _ _ _ _ ↦ trivial)
          fun _ _ _ _ _ _ ↦ trivial) fun _ _ _ _ ↦ wp_return fun _ _ ↦ trivial

theorem wp_settleFinalize {candidate : ReleaseValidationResult} {record : ExecutionRow}
    (hclear : ∀ stepId, ¬ Permanent world stepId) :
    (ReleaseValidationWorkflow.settleFinalize runId call candidate record).wp
      (callProtocol workflow runId caller) () (Returning fun _ _ ↦ True) world := by
  unfold ReleaseValidationWorkflow.settleFinalize
  split_ifs with hsame
  · exact wp_return fun _ _ ↦ trivial
  · cases record.status with
    | ready | blocked => exact wp_reuseTerminalResult hclear
    | failed | pending | running => exact wp_raise

theorem wp_concludeCall {loop : ReleaseValidationWorkflow.StepLoop}
    (hclear : ∀ stepId, ¬ Permanent world stepId) :
    (workflow.concludeCall runId call loop).wp (callProtocol workflow runId caller) ()
      (Returning fun _ _ ↦ True) world := by
  unfold ReleaseValidationWorkflow.concludeCall
  cases validateReleaseReadiness workflow.format loop.results with
  | error failure => exact wp_raise
  | ok findings =>
    change (if findings.isEmpty then _ else _ : ReleaseProgram ReleaseValidationResult).wp _ _ _ _
    split_ifs with hempty
    · exact wp_then (wp_clear (fun _ _ _ ↦ rfl) hclear (fun _ _ ↦ True) (fun _ _ _ _ _ ↦ trivial)
        fun _ _ _ _ _ _ ↦ trivial) fun _ _ _ hlater ↦ wp_settleFinalize hlater.1
    · exact wp_then (wp_clear (fun _ _ _ ↦ rfl) hclear (fun _ _ ↦ True) (fun _ _ _ _ _ ↦ trivial)
        fun _ _ _ _ _ _ ↦ trivial) fun _ _ _ hlater ↦ wp_settleFinalize hlater.1

/-- The steps a call goes through are all steps. -/
theorem scheduled_steps (legacy : Bool) :
    (∀ step ∈ (if legacy then stepDefinitions else stepSequence), step.stepId ∈ stepIds) ∧
      ∀ stepId ∈ stepIds, ∃ step ∈ (if legacy then stepDefinitions else stepSequence),
        step.stepId = stepId := by
  cases legacy with
  | true => decide +kernel
  | false => decide +kernel

theorem wp_runBody (hopen : Open runId gone world) :
    (workflow.runBody runId call manifest).wp (callProtocol workflow runId caller) ()
      (Returning fun _ _ ↦ True) world := by
  unfold ReleaseValidationWorkflow.runBody
  have hsteps : ((ReleaseValidationWorkflow.requestedSteps runId call).bind fun invalidated ↦
      (workflow.takeSteps runId call manifest
        (if call.legacyFixedOrder then stepDefinitions else stepSequence)
        (.start invalidated)).bind fun loop ↦ workflow.concludeCall runId call loop).wp
          (callProtocol workflow runId caller) () (Returning fun _ _ ↦ True) world := by
    refine wp_then (wp_requestedSteps hopen) fun invalidated ready _ hready ↦ ?_
    obtain ⟨hknown, hall⟩ := scheduled_steps call.legacyFixedOrder
    refine wp_then (wp_takeSteps hknown hready) fun loop later hfinal hlater ↦ ?_
    refine wp_concludeCall fun stepId hpermanent ↦ ?_
    obtain ⟨step, hmem, rfl⟩ := hall stepId (hfinal.known stepId hpermanent)
    exact hlater.2 step hmem ((hlater.1.gone_iff step.stepId).mp hpermanent)
  by_cases hlegacy : (call.legacyFixedOrder && call.replay.isSome) = true
  · rw [if_pos hlegacy]
    exact wp_raise
  · rw [if_neg hlegacy]
    exact hsteps

theorem wp_failCall {failure : ReleaseFailure} :
    (ReleaseValidationWorkflow.failCall runId call failure).wp
      (callProtocol workflow runId caller) () (Returning fun _ _ ↦ True) world := by
  unfold ReleaseValidationWorkflow.failCall
  have hfinalize : (storeCall (.finalizeFailed runId failure.describe call.leaseToken)).wp
      (callProtocol workflow runId caller) () (Returning fun _ _ ↦ True) world := by
    refine Program.wp_ask fun before answer after hrely hfinal hanswers ↦ ?_
    refine ⟨?_, trivial, fun _ _ _ _ _ ↦ trivial⟩
    rcases answers_store hanswers with
      ⟨failure, rfl, rfl⟩ | ⟨reading, reply, db, hperform, rfl, -⟩
    · exact hfinal
    · rw [record_of_quiet fun _ _ _ ↦ rfl]
      obtain ⟨hsteps, hfound, row, hrow, hdecided⟩ := finalizeExecution_spec hperform
      refine ⟨⟨hfinal.noReentry, fun stepId hpermanent ↦ ?_⟩, hfinal.known,
        fun stepId hpermanent ↦ ?_⟩
      · rcases hdecided with ⟨-, rfl⟩ | ⟨-, -, rfl⟩
        · exact ⟨_, hfound, .inr rfl⟩
        · exact hfinal.undecided stepId hpermanent
      · obtain ⟨step, hstep, hfailed⟩ := hfinal.failed stepId hpermanent
        exact ⟨step, by rw [hsteps]; exact hstep, hfailed⟩
  refine wp_then hfinalize fun record later _ _ ↦ ?_
  split_ifs
  · exact wp_raise
  · exact wp_raise

theorem wp_runExecution (hopen : Open runId gone world) :
    (workflow.runExecution runId call manifest).wp (callProtocol workflow runId caller) ()
      (Returning fun _ _ ↦ True) world := by
  unfold ReleaseValidationWorkflow.runExecution
  refine Program.wp_handle (Program.wp_mono (wp_runBody hopen) fun result later _ _ ↦ ?_)
  cases result with
  | ok value => exact fun _ _ ↦ trivial
  | error failure =>
    dsimp only
    split_ifs
    · exact wp_raise
    · exact wp_failCall

/-- `mark_running` before any permanent failure. -/
theorem wp_markRunning {row : ExecutionRow} (hclear : ∀ stepId, ¬ Permanent world stepId)
    (hfound : world.db.executions.find runId = some row) (hpending : row.status = .pending) :
    (storeCall (.markRunning runId call.leaseToken)).wp (callProtocol workflow runId caller) ()
      (Returning fun _ later ↦ Open runId (fun _ ↦ False) later) world := by
  have hmark : (storeCall (.markRunning runId call.leaseToken)).wp
      (callProtocol workflow runId caller) ()
      (Returning fun _ later ↦ (∀ stepId, ¬ Permanent later stepId) ∧
        OpenLedger runId (fun _ ↦ False) later.db) world := by
    refine wp_clear (fun _ _ _ ↦ rfl) hclear (fun _ db ↦ OpenLedger runId (fun _ ↦ False) db)
      (fun _ _ _ hrows hledger ↦ hledger.transfer hrows)
      fun reading reply db after hrows hperform ↦ ?_
    obtain ⟨-, hafter, started, hstarted, hdone⟩ := markRunning_spec hperform
    have hsame : started = row := by
      rw [hrows.execution, hfound] at hstarted
      exact (Option.some.inj hstarted).symm
    rcases hdone with ⟨-, rfl⟩ | ⟨hnot, -⟩
    · exact ⟨⟨_, hafter, rfl⟩, fun _ hgone ↦ hgone.elim⟩
    · exact absurd (hsame ▸ hpending) hnot
  refine Program.wp_mono hmark fun result later _ hlater reply hreply ↦ ?_
  obtain ⟨hnone, hledger⟩ := hlater reply hreply
  exact ⟨hledger, fun stepId ↦ iff_of_false (hnone stepId) id⟩

theorem Settled.transfer (hsettled : Settled runId world) (hquiet : Undisturbed runId world later) :
    Settled runId later := by
  intro stepId hpermanent
  unfold Permanent at hpermanent
  rw [hquiet.history] at hpermanent
  rcases hsettled stepId hpermanent with ⟨row, hrow, hfailed⟩ | ⟨row, hrow, hspent⟩
  · exact .inl ⟨row, hquiet.rows.execution.trans hrow, hfailed⟩
  · exact .inr ⟨row, (hquiet.rows.steps stepId (by simp)).trans hrow, hspent⟩

/-- The first operation of a call finds or creates the execution. -/
theorem wp_createOrGetExecution {inputHash : String} (hsettled : Settled runId world) :
    (storeCall (.createOrGetExecution runId workflowType inputHash call.leaseToken)).wp
      (callProtocol workflow runId caller) ()
      (Returning fun (claim : ExecutionClaimResult) later ↦ Settled runId later ∧
        later.db.executions.find runId = some claim.execution) world := by
  refine Program.wp_ask fun before answer after hrely hfinal hanswers ↦ ?_
  have hbefore : Settled runId before := hsettled.transfer hrely
  rcases answers_store hanswers with
    ⟨failure, rfl, rfl⟩ | ⟨reading, reply, db, hperform, rfl, hanswer⟩
  · refine ⟨hfinal, trivial, fun later _ _ claim hclaim ↦ ?_⟩
    cases hclaim
  · rw [record_of_quiet fun _ _ _ ↦ rfl]
    obtain ⟨hsteps, hfound, hexecution⟩ := createOrGetExecution_spec hperform
    have hkept : Final runId { before with db := db } ∧ Settled runId { before with db := db } := by
      rcases hexecution with ⟨-, rfl, -⟩ | ⟨hnone, -, -⟩
      · exact ⟨hfinal, hbefore⟩
      · -- an execution that does not exist yet has no failures
        have hclear : ∀ stepId, ¬ Permanent { before with db := db } stepId := by
          intro stepId hpermanent
          obtain ⟨row, hrow, -⟩ := hfinal.undecided stepId hpermanent
          cases hnone.symm.trans hrow
        exact ⟨final_of_clear hclear, fun stepId hpermanent ↦ absurd hpermanent (hclear stepId)⟩
    refine ⟨hkept.1, trivial, fun later hlater _ claim hclaim ↦
      ⟨hkept.2.transfer hlater, hlater.rows.execution.trans ?_⟩⟩
    rcases hanswer with rfl | ⟨message, rfl⟩
    · rw [← Except.ok.inj hclaim]
      exact hfound
    · cases hclaim

/-- A call that starts in a settled state keeps everything. -/
theorem wp_run (hsettled : Settled runId world) :
    (workflow.run runId call).wp (callProtocol workflow runId caller) ()
      (Returning fun _ _ ↦ True) world := by
  unfold ReleaseValidationWorkflow.run
  refine wp_then (wp_createOrGetExecution hsettled) fun claim later hfinal hclaim ↦ ?_
  obtain ⟨hlater, hfound⟩ := hclaim
  obtain ⟨outcome, execution⟩ := claim
  dsimp only at hfound ⊢
  have hdecided (hstatus : execution.status ≠ .running) (hopen : execution.status ≠ .failed) :
      ∀ stepId, ¬ Permanent later stepId := by
    intro stepId hpermanent
    obtain ⟨row, hrow, hrunning | hfailed⟩ := hfinal.undecided stepId hpermanent
    · exact hstatus (Option.some.inj (hrow.symm.trans hfound) ▸ hrunning)
    · exact hopen (Option.some.inj (hrow.symm.trans hfound) ▸ hfailed)
  cases outcome with
  | workflowTypeMismatch => exact wp_raise
  | inputMismatch => exact wp_raise
  | created | existing =>
    dsimp only
    cases hstatus : execution.status with
    | ready | blocked =>
      exact wp_reuseTerminalResult (hdecided (by simp [hstatus]) (by simp [hstatus]))
    | failed => exact wp_raise
    | pending =>
      simp only [Program.discard_eq_bind, Program.bind_eq_bind, Program.bind_bind,
        Program.done_bind]
      have hclear := hdecided (by simp [hstatus]) (by simp [hstatus])
      exact wp_then (wp_markRunning hclear hfound hstatus) fun _ _ _ hopen ↦ wp_runExecution hopen
    | running =>
      have hopen : Open runId (Permanent later) later := by
        refine ⟨⟨⟨execution, hfound, hstatus⟩, fun stepId hpermanent ↦ ?_⟩, fun _ ↦ Iff.rfl⟩
        obtain ⟨step, hstep, hfailed⟩ := hfinal.failed stepId hpermanent
        refine ⟨step, hstep, hfailed, ?_⟩
        rcases hlater stepId hpermanent with ⟨row, hrow, hover⟩ | ⟨row, hrow, hspent⟩
        · rw [← Option.some.inj (hfound.symm.trans hrow), hstatus] at hover
          cases hover
        · exact Option.some.inj (hrow.symm.trans hstep) ▸ hspent
      exact wp_runExecution hopen

end Call

/-! ### One caller -/

/-- The event is about this call, or about none. -/
def CallLabel.About (caller : Nat) : CallLabel → Prop
  | .start first _ => first = caller
  | .work first _ => first = caller
  | .kill first => first = caller
  | CallLabel.other _ => True

theorem calls_next_of_ne (hasher : Hasher) {system : CallSystem} {label : CallLabel} {other : Nat}
    (habout : label.About caller) (hother : other ≠ caller) :
    (system.next hasher workflow runId label).calls other = system.calls other := by
  cases label with
  | start first arguments =>
    obtain rfl : first = caller := habout
    unfold CallSystem.next
    dsimp only
    split_ifs with hlive
    · rfl
    · exact Function.update_of_ne hother _ _
  | work first response =>
    obtain rfl : first = caller := habout
    change (system.work workflow runId first response).calls other = system.calls other
    unfold CallSystem.work
    split
    · split
      · exact Function.update_of_ne hother _ _
      · rfl
    · rfl
  | kill first =>
    obtain rfl : first = caller := habout
    exact Function.update_of_ne hother _ _
  | other request =>
    unfold CallSystem.next
    dsimp only
    split_ifs with hforeign
    · rfl
    · rfl

theorem calls_run_of_ne (hasher : Hasher) {db : Database} {system : CallSystem}
    {labels : List CallLabel} {other : Nat} (habout : ∀ label ∈ labels, label.About caller)
    (hother : other ≠ caller) :
    ((callMachine hasher workflow runId db).run system labels).calls other =
      system.calls other := by
  induction labels generalizing system with
  | nil => rfl
  | cons label rest ih =>
    have hrest (later : CallSystem) :
        ((callMachine hasher workflow runId db).run later rest).calls other = later.calls other :=
      ih fun label hmem ↦ habout label (List.mem_cons_of_mem _ hmem)
    exact (hrest _).trans (calls_next_of_ne hasher (habout label List.mem_cons_self) hother)

/-- When all events are about one call that is over, none is live. -/
theorem idle_run (hasher : Hasher) {db : Database} {labels : List CallLabel}
    (habout : ∀ label ∈ labels, label.About caller)
    (hover : isLive (((callMachine hasher workflow runId db).run
      (.initial db) labels).calls caller) =
      false) (other : Nat) :
    isLive (((callMachine hasher workflow runId db).run (.initial db) labels).calls other) =
      false := by
  by_cases hother : other = caller
  · rw [hother]
    exact hover
  · rw [calls_run_of_ne hasher habout hother]
    rfl

/-! ### Any sequence of calls -/

/-- The world is final, and the one call that is live may go on from it. -/
structure FinalSystem (workflow : ReleaseValidationWorkflow) (runId : String)
    (system : CallSystem) : Prop where
  final : Final runId system.world
  live : ∀ caller program, system.calls caller = some program → isLive (some program) = true →
    program.wp (callProtocol workflow runId caller) () (Returning fun _ _ ↦ True) system.world
  alone : ∀ first second, isLive (system.calls first) = true →
    isLive (system.calls second) = true → first = second

theorem isLive_update {calls : Nat → Option (ReleaseProgram ReleaseValidationResult)}
    {program : Option (ReleaseProgram ReleaseValidationResult)} {other : Nat}
    (hlive : isLive (Function.update calls caller program other) = true) :
    (other = caller ∧ isLive program = true) ∨ (other ≠ caller ∧ isLive (calls other) = true) := by
  by_cases hother : other = caller
  · subst hother
    rw [Function.update_self] at hlive
    exact .inl ⟨rfl, hlive⟩
  · rw [Function.update_of_ne hother] at hlive
    exact .inr ⟨hother, hlive⟩

/-- Replacing the program of the only live call, or adding one where none is live. -/
theorem FinalSystem.replace {system : CallSystem} {world : ReleaseWorld}
    {program : ReleaseProgram ReleaseValidationResult}
    (hothers : ∀ other, other ≠ caller → isLive (system.calls other) = false)
    (hfinal : Final runId world)
    (hwp : program.wp (callProtocol workflow runId caller) () (Returning fun _ _ ↦ True) world) :
    FinalSystem workflow runId
      ⟨world, Function.update system.calls caller (some program)⟩ where
  final := hfinal
  live other found hfound hlive := by
    have hliving : isLive (Function.update system.calls caller (some program) other) = true := by
      rw [← hlive]
      exact congrArg isLive hfound
    rcases isLive_update hliving with ⟨rfl, -⟩ | ⟨hother, hstill⟩
    · change Function.update system.calls other (some program) other = some found at hfound
      rw [Function.update_self] at hfound
      exact Option.some.inj hfound ▸ hwp
    · rw [hothers other hother] at hstill
      cases hstill
  alone first second hfirst hsecond := by
    have honly (other : Nat)
        (hlive : isLive (Function.update system.calls caller (some program) other) = true) :
        other = caller := by
      rcases isLive_update hlive with ⟨rfl, -⟩ | ⟨hother, hstill⟩
      · rfl
      · rw [hothers other hother] at hstill
        cases hstill
    rw [honly first hfirst, honly second hsecond]

theorem finalSystem_next (hasher : Hasher) {system : CallSystem} {label : CallLabel}
    (hsystem : FinalSystem workflow runId system)
    (hguard : OneByOne system label ∧ StartsSettled runId system label) :
    FinalSystem workflow runId (system.next hasher workflow runId label) := by
  cases label with
  | start caller arguments =>
    obtain ⟨hidle, hsettled⟩ := hguard
    unfold CallSystem.next
    dsimp only
    rw [if_neg (by rw [hidle caller]; decide)]
    exact FinalSystem.replace (fun other _ ↦ hidle other) hsystem.final (wp_run hsettled)
  | work caller response =>
    change FinalSystem workflow runId (system.work workflow runId caller response)
    unfold CallSystem.work
    split
    · next op hscope next hprogram =>
      split
      · next answer after hperform =>
        have hlive : isLive (system.calls caller) = true := by rw [hprogram]; rfl
        have hwp := hsystem.live caller _ hprogram rfl
        obtain ⟨hfinal, -, hrest⟩ := hwp system.world ⟨.refl _ _ _, rfl, rfl⟩ hsystem.final answer
          after ⟨response, hperform⟩
        refine FinalSystem.replace (fun other hother ↦ ?_) hfinal hrest
        cases hstill : isLive (system.calls other) with
        | false => rfl
        | true => exact absurd (hsystem.alone other caller hstill hlive) hother
      · exact hsystem
    · exact hsystem
  | kill caller =>
    refine ⟨hsystem.final, fun other program hprogram hlive ↦ ?_,
      fun first second hfirst hsecond ↦ ?_⟩
    · by_cases hother : other = caller
      · subst hother
        change Function.update system.calls other none other = some program at hprogram
        rw [Function.update_self] at hprogram
        cases hprogram
      · change Function.update system.calls caller none other = some program at hprogram
        rw [Function.update_of_ne hother] at hprogram
        exact hsystem.live other program hprogram hlive
    · rcases isLive_update hfirst with ⟨-, hnone⟩ | ⟨-, hfirst⟩
      · cases hnone
      · rcases isLive_update hsecond with ⟨-, hnone⟩ | ⟨-, hsecond⟩
        · cases hnone
        · exact hsystem.alone first second hfirst hsecond
  | other request =>
    unfold CallSystem.next
    dsimp only
    split_ifs with hforeign
    · have hquiet : Undisturbed runId system.world
          { system.world with db := request.apply hasher system.world.db } := by
        refine ⟨sameRows_of_sameLedgerOf (sameLedgerOf_apply hasher request fun call hcall ↦ ?_) _,
          rfl, rfl⟩
        unfold isForeign at hforeign
        rw [hcall] at hforeign
        exact of_decide_eq_true hforeign
      refine ⟨?_, fun caller program hprogram hlive ↦
        Program.wp_stable (hsystem.live caller program hprogram hlive) hquiet, hsystem.alone⟩
      refine ⟨⟨hsystem.final.noReentry, fun stepId hpermanent ↦ ?_⟩, hsystem.final.known,
        fun stepId hpermanent ↦ ?_⟩
      · obtain ⟨row, hrow, hstatus⟩ := hsystem.final.undecided stepId hpermanent
        exact ⟨row, hquiet.rows.execution.trans hrow, hstatus⟩
      · obtain ⟨row, hrow, hfailed⟩ := hsystem.final.failed stepId hpermanent
        exact ⟨row, (hquiet.rows.steps stepId (by simp)).trans hrow, hfailed⟩
    · exact hsystem

theorem finalSystem_initial (workflow : ReleaseValidationWorkflow) (runId : String)
    (db : Database) : FinalSystem workflow runId (.initial db) where
  final := final_of_clear fun stepId hpermanent ↦ by cases hpermanent
  live caller program hprogram := by cases hprogram
  alone first second hfirst := by cases hfirst

/-- In every sequence of calls for one `run_id`, crashed and resumed at any points, in which
each call starts in a settled state: a tool is not entered again after a permanent failure of its
step, and the execution is not decided READY or BLOCKED. -/
theorem permanentFailure_final (hasher : Hasher) (workflow : ReleaseValidationWorkflow)
    (runId : String) (db : Database) (labels : List CallLabel)
    (hadmits : (callMachine hasher workflow runId db).Admits
      (fun system label ↦ OneByOne system label ∧ StartsSettled runId system label) (.initial db)
      labels) :
    PermanentIsFinal runId
      ((callMachine hasher workflow runId db).run (.initial db) labels).world := by
  have hsystem := (callMachine hasher workflow runId db).invariant_run
    (FinalSystem workflow runId)
    (fun system label hkept hguard ↦ finalSystem_next hasher hkept hguard)
    (finalSystem_initial workflow runId db) hadmits
  exact hsystem.final.toPermanentIsFinal

/-- The sample release: nothing is required of it. -/
def sampleManifest : ReleaseManifest :=
  ⟨"release-1", "app", "1.0", [], [], "smoke", "smoke", true, [], [], "staging", [], [], []⟩

def sampleWorkflow : ReleaseValidationWorkflow :=
  ⟨defaultIsTransientFailure, fun _ ↦ "sha256", fun _ ↦ ""⟩

def sampleDigests : Hasher := ⟨fun _ ↦ "", fun _ ↦ ""⟩

def sampleCalls : Machine CallSystem CallLabel :=
  callMachine sampleDigests sampleWorkflow "run" .empty

def resumingCall : CallLabel := .start 0 ⟨sampleManifest, true, none, false, none⟩

/-- An operation of the store that succeeds. -/
def storeWorks (number : Nat) : CallLabel :=
  .work 0 (.store ⟨0, fun index ↦ toString number ++ "." ++ toString index,
    fun index ↦ toString number ++ "-" ++ toString index⟩ none)

/-- A tool that fails for good. -/
def toolFails : CallLabel := .work 0 (.tool (.ok ⟨.failed, none, some "boom"⟩))

/-- A tool that finds nothing wrong. -/
def toolPasses : CallLabel :=
  .work 0 (.tool (.ok ⟨.completed, some [("missing_artifacts", .arr []),
    ("invalid_checksums", .arr []), ("matches_required_suite", .bool true), ("passed", .bool true),
    ("missing_versions", .arr []), ("missing_keys", .arr []), ("evidence_complete", .bool true)],
    none⟩))

/-- A call that records its failure and finalizes the execution. -/
def failedCall : List CallLabel :=
  [resumingCall, storeWorks 0, storeWorks 1, storeWorks 2, toolFails, storeWorks 3, storeWorks 4]

/-- The failed call, and another one for the same execution, which reads how it ended. -/
def calledAgain : List CallLabel := failedCall ++ [resumingCall, storeWorks 5]

/-- Another call after a permanent failure starts in a settled state and changes nothing. -/
theorem failedCall_final :
    Permanent (sampleCalls.run (.initial .empty) failedCall).world "load_manifest" ∧
      Settled "run" (sampleCalls.run (.initial .empty) failedCall).world ∧
      PermanentIsFinal "run" (sampleCalls.run (.initial .empty) calledAgain).world ∧
      (sampleCalls.run (.initial .empty) calledAgain).world.history =
        (sampleCalls.run (.initial .empty) failedCall).world.history := by
  have hidle (caller : Nat) :
      isLive ((sampleCalls.run (.initial .empty) failedCall).calls caller) = false := by
    have habout : ∀ label ∈ failedCall, label.About 0 := by
      intro label hmem
      simp only [failedCall, List.mem_cons, List.not_mem_nil, or_false] at hmem
      rcases hmem with rfl | rfl | rfl | rfl | rfl | rfl | rfl <;> rfl
    exact idle_run sampleDigests habout (by decide +kernel) caller
  have hfailed : ((sampleCalls.run (.initial .empty) failedCall).world.db.executions.find
      "run").map (·.status) = some .failed := by decide +kernel
  have hsettled : Settled "run" (sampleCalls.run (.initial .empty) failedCall).world :=
    fun stepId _ ↦ .inl (Option.map_eq_some_iff.mp hfailed)
  have hadmits : sampleCalls.Admits
      (fun system label ↦ OneByOne system label ∧ StartsSettled "run" system label)
      (.initial .empty) calledAgain := by
    refine (sampleCalls.admits_append _ _ _ _).mpr
      ⟨⟨⟨fun caller ↦ rfl, fun stepId hpermanent ↦ by cases hpermanent⟩, ?_⟩,
        ⟨hidle, hsettled⟩, ⟨trivial, trivial⟩, trivial⟩
    refine Machine.admits_of_forall _ (fun label hmem system ↦ ?_) _
    cases label with
    | start caller arguments => simp [storeWorks, toolFails] at hmem
    | work caller response => exact ⟨trivial, trivial⟩
    | kill caller => exact ⟨trivial, trivial⟩
    | other request => exact ⟨trivial, trivial⟩
  exact ⟨by unfold Permanent; decide +kernel, hsettled, permanentFailure_final _ _ _ _ _ hadmits,
    by decide +kernel⟩

/-- A call that is killed after it recorded its failure. -/
def killedCall : List CallLabel :=
  [resumingCall, storeWorks 0, storeWorks 1, storeWorks 2, toolFails, storeWorks 3, .kill 0]

/-- What a resumed call does up to the decision. -/
def resumedWork : List CallLabel :=
  storeWorks 4 :: (List.range 6).flatMap (fun index ↦
    [storeWorks (5 + 2 * index), toolPasses, storeWorks (6 + 2 * index)]) ++ [storeWorks 30]

def resumedCalls : List CallLabel := killedCall ++ resumingCall :: resumedWork

/-- After the kill between the failure of the step and that of the execution, the resumed call
enters the tool again and the execution becomes READY. -/
theorem killedCall_not_final :
    sampleCalls.Admits OneByOne (.initial .empty) resumedCalls ∧
      Permanent (sampleCalls.run (.initial .empty) killedCall).world "load_manifest" ∧
      ¬ NoReentry (sampleCalls.run (.initial .empty) resumedCalls).world.history ∧
      ∃ row, (sampleCalls.run (.initial .empty) resumedCalls).world.db.executions.find "run" =
        some row ∧ row.status = .ready := by
  have hadmits : sampleCalls.Admits OneByOne (.initial .empty) resumedCalls := by
    refine (sampleCalls.admits_append _ _ _ _).mpr ⟨⟨fun caller ↦ rfl, ?_⟩, ?_, ?_⟩
    · refine sampleCalls.admits_of_forall (fun label hmem system ↦ ?_) _
      cases label with
      | start caller arguments => simp [storeWorks, toolFails] at hmem
      | work caller response => trivial
      | kill caller => trivial
      | other request => trivial
    · have habout : ∀ label ∈ killedCall, label.About 0 := by
        intro label hmem
        simp only [killedCall, List.mem_cons, List.not_mem_nil, or_false] at hmem
        rcases hmem with rfl | rfl | rfl | rfl | rfl | rfl | rfl <;> rfl
      exact idle_run sampleDigests habout (by decide +kernel)
    · refine sampleCalls.admits_of_forall (fun label hmem system ↦ ?_) _
      cases label with
      | start caller arguments => simp [resumedWork, storeWorks, toolPasses] at hmem
      | work caller response => trivial
      | kill caller => trivial
      | other request => trivial
  have hstatus : ((sampleCalls.run (.initial .empty) resumedCalls).world.db.executions.find
      "run").map (·.status) = some .ready := by decide +kernel
  have hhistory : ∃ after, (sampleCalls.run (.initial .empty) resumedCalls).world.history =
      [.entered "load_manifest" 1] ++ .failedPermanently "load_manifest" ::
        .entered "load_manifest" 2 :: after := by
    refine ⟨(sampleCalls.run (.initial .empty) resumedCalls).world.history.drop 3, ?_⟩
    decide +kernel
  refine ⟨hadmits, ?_, fun hfinal ↦ ?_, ?_⟩
  · unfold Permanent
    decide +kernel
  · obtain ⟨after, hsplit⟩ := hhistory
    exact hfinal _ _ _ hsplit 2 List.mem_cons_self
  · simpa using hstatus

end AgentRuntime.Release
