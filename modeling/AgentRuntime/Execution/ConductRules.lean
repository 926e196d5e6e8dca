import AgentRuntime.Execution.Conduct

/-!
# Rules for the conduct of an attempt

Facts about a history hold of every longer one. `Follows budget good program history` says that a
program keeps to the conduct, consults the planner at most `budget` times, returns what `good` says,
and only raises codes that the history then warrants. The rules compose it along the program; the
last part follows the projector of evidence and `_fail`.
-/

set_option autoImplicit false
set_option relaxedAutoImplicit false

namespace AgentRuntime.Execution

open Library Store

/-! ### Longer histories -/

section Longer

variable {manager : RuntimeManager} {claim : RunLeaseClaim} {history later : History}
  {runId stepId eventType evidenceId code : String} {payload : Payload}

theorem Evidenced.mono (hevidenced : Evidenced runId eventType evidenceId payload history)
    (hlater : history <+: later) : Evidenced runId eventType evidenceId payload later := by
  cases hevidenced with
  | seen events hdeed hfirst => exact .seen events (hlater.subset hdeed) hfirst
  | recorded token event fields hpayload hdeed =>
    exact .recorded token event fields hpayload (hlater.subset hdeed)

theorem Contested.mono (hcontested : Contested runId eventType evidenceId history)
    (hlater : history <+: later) : Contested runId eventType evidenceId later := by
  obtain ⟨before, events, between, shown, rest, rfl, hquiet, hnone, hsome⟩ := hcontested
  obtain ⟨more, rfl⟩ := hlater
  refine ⟨before, events, between, shown, rest ++ more, ?_, hquiet, hnone, hsome⟩
  simp

theorem Decided.mono {index : Nat} {decision : PlannerDecision}
    (hdecided : Decided runId index decision history) (hlater : history <+: later) :
    Decided runId index decision later := by
  rcases hdecided with ⟨payload, hdecision, hevidenced⟩ | hcontested
  · exact .inl ⟨payload, hdecision, hevidenced.mono hlater⟩
  · exact .inr (hcontested.mono hlater)

theorem PolicyAllowed.mono (hallowed : PolicyAllowed runId stepId history)
    (hlater : history <+: later) : PolicyAllowed runId stepId later := by
  obtain ⟨payload, houtcome, hevidenced⟩ := hallowed
  exact ⟨payload, houtcome, hevidenced.mono hlater⟩

theorem Reports.mono {status : ExternalActionStatus}
    (hreports : Reports runId stepId status history)
    (hlater : history <+: later) : Reports runId stepId status later := by
  obtain ⟨deed, hdeed, hshows⟩ := hreports
  exact ⟨deed, hlater.subset hdeed, hshows⟩

theorem StepDone.mono (hdone : StepDone runId stepId history) (hlater : history <+: later) :
    StepDone runId stepId later := by
  cases hdone with
  | seen deed row hdeed hshows hcompleted =>
    exact .seen deed row (hlater.subset hdeed) hshows hcompleted
  | cached toolName inputHash maxAttempts token reply houtcome hdeed =>
    exact .cached toolName inputHash maxAttempts token reply houtcome (hlater.subset hdeed)
  | completed attempt result token row hdeed =>
    exact .completed attempt result token row (hlater.subset hdeed)
  | settled deed hdeed hsettles => exact .settled deed (hlater.subset hdeed) hsettles

theorem StepSucceeded.mono (hsucceeded : StepSucceeded runId stepId history)
    (hlater : history <+: later) : StepSucceeded runId stepId later :=
  hsucceeded.imp (fun hdone ↦ hdone.mono hlater) fun hreports ↦ hreports.mono hlater

theorem Observed.mono {count : Nat} (hobserved : Observed runId count history)
    (hlater : history <+: later) : Observed runId count later := by
  obtain ⟨rows, hdeed, hdone⟩ := hobserved
  exact ⟨rows, hlater.subset hdeed, fun index hbase hcount ↦
    (hdone index hbase hcount).mono hlater⟩

/-- One more step is known to be completed. -/
theorem Observed.succ {count : Nat} (hobserved : Observed runId count history)
    (hdone : StepDone runId (callStepId (count + 1)) history) :
    Observed runId (count + 1) history := by
  obtain ⟨rows, hdeed, hearlier⟩ := hobserved
  refine ⟨rows, hdeed, fun index hbase hindex ↦ ?_⟩
  by_cases hlast : index = count + 1
  · exact hlast ▸ hdone
  · exact hearlier index hbase (by omega)

theorem Concluded.mono (hconcluded : Concluded runId history) (hlater : history <+: later) :
    Concluded runId later := by
  cases hconcluded with
  | seen deed row hdeed hshows hstatus =>
    exact .seen deed row (hlater.subset hdeed) hshows hstatus
  | ready result token row hdeed => exact .ready result token row (hlater.subset hdeed)
  | blocked result code token row hdeed =>
    exact .blocked result code token row (hlater.subset hdeed)

theorem Authorized.mono {call : ToolCall} (hauthorized : Authorized manager claim history call)
    (hlater : history <+: later) : Authorized manager claim later call :=
  { hauthorized with
    decided := hauthorized.decided.mono hlater
    policy := hauthorized.policy.mono hlater }

theorem ReadOnlyCode.mono (hcode : ReadOnlyCode manager claim history stepId code)
    (hlater : history <+: later) : ReadOnlyCode manager claim later stepId code := by
  obtain ⟨deed, hdeed, row, hshows, hrow, hreadOnly⟩ := hcode
  refine ⟨deed, hlater.subset hdeed, row, hshows, hrow, hreadOnly.imp_right ?_⟩
  rintro ⟨call, hauthorized, hstep⟩
  exact ⟨call, hauthorized.mono hlater, hstep⟩

theorem StepWarranted.mono (hwarranted : StepWarranted manager claim history stepId code)
    (hlater : history <+: later) : StepWarranted manager claim later stepId code :=
  fun status hstatus ↦ (hwarranted status hstatus).imp (Reports.mono · hlater)
    (ReadOnlyCode.mono · hlater)

theorem Source.mono {status : ExternalActionStatus}
    (hsource : Source manager claim history code status) (hlater : history <+: later) :
    Source manager claim later code status := by
  cases hsource with
  | action stepId hreports => exact .action stepId (hreports.mono hlater)
  | readOnly stepId hcode => exact .readOnly stepId (hcode.mono hlater)
  | execution deed row hdeed hshows hfailed hcode =>
    exact .execution deed row (hlater.subset hdeed) hshows hfailed hcode
  | planner evidenceId payload hevidenced hcode =>
    exact .planner evidenceId payload (hevidenced.mono hlater) hcode
  | evaluator decision observations failure hdeed hcode =>
    exact .evaluator decision observations failure (hlater.subset hdeed) hcode
  | runtime registration hregistration hforeign =>
    exact .runtime registration hregistration hforeign

theorem Warranted.mono (hwarranted : Warranted manager claim history code)
    (hlater : history <+: later) : Warranted manager claim later code :=
  fun status hstatus ↦ (hwarranted status hstatus).mono hlater

/-- A code that says nothing about external actions needs no warrant. -/
theorem warranted_of_none (hnone : reportedStatus code = none) :
    Warranted manager claim history code := by
  intro status hstatus
  rw [hnone] at hstatus
  cases hstatus

theorem stepWarranted_of_none (hnone : reportedStatus code = none) :
    StepWarranted manager claim history stepId code := by
  intro status hstatus
  rw [hnone] at hstatus
  cases hstatus

/-- The status of an action warrants the code that reports it. -/
theorem stepWarranted_of_reports {status : ExternalActionStatus}
    (hreports : Reports claim.run.runId stepId status history)
    (hcode : reportedStatus code = some status) :
    StepWarranted manager claim history stepId code := by
  intro other hother
  obtain rfl := Option.some.inj (hcode.symm.trans hother)
  exact .inl hreports

theorem StepWarranted.warranted (hwarranted : StepWarranted manager claim history stepId code) :
    Warranted manager claim history code := by
  intro status hstatus
  cases hwarranted status hstatus with
  | inl hreports => exact .action stepId hreports
  | inr hcode => exact .readOnly stepId hcode

end Longer

/-! ### Programs that keep to the conduct -/

section Rules

variable {manager : RuntimeManager} {claim : RunLeaseClaim} {history : History}
  {scope wider : Op → Bool} {α β : Type}

/-- The codes that a failure carries are warranted. -/
def Excused (manager : RuntimeManager) (claim : RunLeaseClaim) (failure : Failure)
    (history : History) : Prop :=
  ∀ code, failure.code = some code → Warranted manager claim history code

theorem excused_of_none {failure : Failure} (hnone : failure.code = none) :
    Excused manager claim failure history := by
  intro code hcode
  rw [hnone] at hcode
  cases hcode

theorem excused_of_code {code message : String}
    (hwarranted : Warranted manager claim history code) :
    Excused manager claim (.runtimeExecution code message) history := by
  intro other hother
  exact Option.some.inj hother ▸ hwarranted

theorem Excused.mono {failure : Failure} {later : History}
    (hexcused : Excused manager claim failure history) (hlater : history <+: later) :
    Excused manager claim failure later :=
  fun code hcode ↦ (hexcused code hcode).mono hlater

/-- What the code returns is good, and what it raises is excused. -/
def Ends (manager : RuntimeManager) (claim : RunLeaseClaim) (good : α → History → Prop) :
    Except Failure α → History → Prop
  | .ok value, later => good value later
  | .error failure, later => Excused manager claim failure later

/-- The program keeps to the conduct with a number of consultations. -/
def Follows (manager : RuntimeManager) (claim : RunLeaseClaim) (budget : Nat)
    (good : α → History → Prop) (program : Program Op.Answer Failure scope α)
    (history : History) : Prop :=
  program.Obeys (conduct manager claim)
    (fun result later ↦ consultations later ≤ consultations history + budget ∧
      Ends manager claim good result later) history

variable {budget : Nat} {good : α → History → Prop} {better : β → History → Prop}
  {program : Program Op.Answer Failure scope α}

theorem follows_done {value : α} (hgood : good value history) :
    Follows manager claim budget good (.done value : Program Op.Answer Failure scope α) history :=
  ⟨Nat.le_add_right _ _, hgood⟩

theorem follows_raise {failure : Failure} (hexcused : Excused manager claim failure history) :
    Follows manager claim budget good (.raise failure : Program Op.Answer Failure scope α)
      history :=
  ⟨Nat.le_add_right _ _, hexcused⟩

theorem follows_mono {weaker : α → History → Prop}
    (hfollows : Follows manager claim budget good program history)
    (hweaker : ∀ value later, history <+: later → good value later → weaker value later) :
    Follows manager claim budget weaker program history := by
  refine Program.obeys_mono hfollows fun result later hlater hend ↦ ⟨hend.1, ?_⟩
  cases result with
  | ok value => exact hweaker value later hlater hend.2
  | error failure => exact hend.2

/-- A program that never returns may be said to return anything. -/
theorem follows_of_never {other : α → History → Prop}
    (hfollows : Follows manager claim budget (fun (_ : α) (_ : History) ↦ False) program history) :
    Follows manager claim budget other program history :=
  follows_mono hfollows fun _ _ _ hfalse ↦ hfalse.elim

theorem follows_more {more : Nat} (hfollows : Follows manager claim budget good program history)
    (hmore : budget ≤ more) : Follows manager claim more good program history :=
  Program.obeys_mono hfollows fun _ _ _ hend ↦ ⟨hend.1.trans (by omega), hend.2⟩

theorem follows_widen {hwider : ∀ op, scope op = true → wider op = true}
    (hfollows : Follows manager claim budget good program history) :
    Follows manager claim budget good (program.widen hwider) history :=
  Program.obeys_widen hfollows

/-- A program that does not consult the planner leaves the count as it was. -/
theorem follows_quietly (hfollows : Follows manager claim 0 good program history) :
    Follows manager claim 0
      (fun value later ↦ good value later ∧ consultations later ≤ consultations history) program
      history := by
  refine Program.obeys_mono hfollows fun result later _ hend ↦ ⟨hend.1, ?_⟩
  cases result with
  | ok value => exact ⟨hend.2, hend.1⟩
  | error failure => exact hend.2

/-- Sequencing of two programs that may both consult the planner. -/
theorem follows_bind_asking {more : Nat} {rest : α → Program Op.Answer Failure scope β}
    (hfollows : Follows manager claim budget good program history)
    (hrest : ∀ value later, history <+: later → good value later →
      consultations later ≤ consultations history + budget →
      Follows manager claim more better (rest value) later) :
    Follows manager claim (budget + more) better (program.bind rest) history := by
  refine Program.obeys_seq _ hfollows ?_ ?_
  · intro value later hlater hend
    refine Program.obeys_mono (hrest value later hlater hend.2 hend.1) fun result last _ hlast ↦ ?_
    have hcount := hend.1
    exact ⟨hlast.1.trans (by omega), hlast.2⟩
  · intro failure later _ hend
    have hcount := hend.1
    exact ⟨by omega, hend.2⟩

/-- Sequencing after a program that does not consult the planner. -/
theorem follows_bind {rest : α → Program Op.Answer Failure scope β}
    (hfollows : Follows manager claim 0 good program history)
    (hrest : ∀ value later, history <+: later → good value later →
      Follows manager claim budget better (rest value) later) :
    Follows manager claim budget better (program.bind rest) history := by
  have hboth := follows_bind_asking hfollows fun value later hlater hgood _ ↦
    hrest value later hlater hgood
  exact follows_more hboth (by omega)

/-- Sequencing before a program that does not consult the planner. -/
theorem follows_bind_quiet {rest : α → Program Op.Answer Failure scope β}
    (hfollows : Follows manager claim budget good program history)
    (hrest : ∀ value later, history <+: later → good value later →
      Follows manager claim 0 better (rest value) later) :
    Follows manager claim budget better (program.bind rest) history :=
  follows_bind_asking hfollows fun value later hlater hgood _ ↦ hrest value later hlater hgood

/-- Nothing follows a program that never returns. -/
theorem follows_bind_never {rest : α → Program Op.Answer Failure scope β}
    (hfollows : Follows manager claim 0 (fun (_ : α) (_ : History) ↦ False) program history) :
    Follows manager claim budget better (program.bind rest) history :=
  follows_bind hfollows fun _ _ _ hfalse ↦ hfalse.elim

/-- `try … except`, whose handler starts from an excused failure. -/
theorem follows_handle {handler : Failure → Program Op.Answer Failure scope α}
    (hfollows : Follows manager claim budget good program history)
    (hhandler : ∀ failure later, history <+: later → Excused manager claim failure later →
      Follows manager claim 0 good (handler failure) later) :
    Follows manager claim budget good (program.handle handler) history := by
  refine Program.obeys_handle _ hfollows ?_ ?_
  · intro value later _ hend
    exact hend
  · intro failure later hlater hend
    refine Program.obeys_mono (hhandler failure later hlater hend.2) fun result last _ hlast ↦ ?_
    exact ⟨hlast.1.trans (by have := hend.1; omega), hlast.2⟩

/-- `try … except` followed by what handles both ends. -/
theorem follows_try {rest : Except Failure α → Program Op.Answer Failure scope β}
    (hfollows : Follows manager claim budget good program history)
    (hok : ∀ value later, history <+: later → good value later →
      Follows manager claim 0 better (rest (.ok value)) later)
    (herror : ∀ failure later, history <+: later → Excused manager claim failure later →
      Follows manager claim 0 better (rest (.error failure)) later) :
    Follows manager claim budget better (program.attempt.bind rest) history := by
  refine Program.obeys_try _ hfollows fun result later hlater hend ↦ ?_
  have hrest : Follows manager claim 0 better (rest result) later := by
    cases result with
    | ok value => exact hok value later hlater hend.2
    | error failure => exact herror failure later hlater hend.2
  refine Program.obeys_mono hrest fun result last _ hlast ↦ ?_
  have hcount := hend.1
  exact ⟨hlast.1.trans (by omega), hlast.2⟩

/-- `try … except` around what does not consult the planner, followed by what may. -/
theorem follows_try_quietly {rest : Except Failure α → Program Op.Answer Failure scope β}
    (hfollows : Follows manager claim 0 good program history)
    (hok : ∀ value later, history <+: later → good value later →
      consultations later ≤ consultations history →
      Follows manager claim budget better (rest (.ok value)) later)
    (herror : ∀ failure later, history <+: later → Excused manager claim failure later →
      consultations later ≤ consultations history →
      Follows manager claim budget better (rest (.error failure)) later) :
    Follows manager claim budget better (program.attempt.bind rest) history := by
  refine Program.obeys_try _ hfollows fun result later hlater hend ↦ ?_
  have hrest : Follows manager claim budget better (rest result) later := by
    cases result with
    | ok value => exact hok value later hlater hend.2 hend.1
    | error failure => exact herror failure later hlater hend.2 hend.1
  refine Program.obeys_mono hrest fun result last _ hlast ↦ ?_
  have hcount := hend.1
  exact ⟨hlast.1.trans (by omega), hlast.2⟩

/-- `try … except` followed by what does not mind how the body ended. -/
theorem follows_attempt {rest : Except Failure α → Program Op.Answer Failure scope β}
    (hfollows : Follows manager claim budget good program history)
    (hrest : ∀ result later, history <+: later →
      Follows manager claim 0 better (rest result) later) :
    Follows manager claim budget better (program.attempt.bind rest) history :=
  follows_try hfollows (fun value later hlater _ ↦ hrest (.ok value) later hlater)
    fun failure later hlater _ ↦ hrest (.error failure) later hlater

theorem consultations_append (deed : Deed) : consultations (history ++ [deed]) =
    consultations history + if deed.isConsultation then 1 else 0 := by
  unfold consultations
  rw [List.countP_append, List.countP_singleton]

/-- `try` around one operation, whatever it raises. -/
theorem follows_tryAsk {op : Op} {hscope : scope op = true}
    {rest : Except Failure op.Answer → Program Op.Answer Failure scope β}
    (hmay : MayPerform manager claim history op)
    (hquiet : ∀ answer, Deed.isConsultation ⟨op, answer⟩ = false)
    (hrest : ∀ answer, Follows manager claim budget better (rest answer)
      (history ++ [⟨op, answer⟩])) :
    Follows manager claim budget better
      ((Program.ask op hscope : Program Op.Answer Failure scope op.Answer).attempt.bind rest)
      history := by
  refine Program.obeys_try (fun answer later ↦ later = history ++ [⟨op, answer⟩])
    (Program.obeys_ask hmay fun _ _ ↦ rfl) fun answer later _ hlater ↦ ?_
  subst hlater
  refine Program.obeys_mono (hrest answer) fun result last _ hlast ↦ ?_
  have hcount := hlast.1
  rw [consultations_append, hquiet answer] at hcount
  exact ⟨hcount, hlast.2⟩

/-- The planner is consulted, whatever it raises. -/
theorem follows_consult {context : PlannerContext} {hscope : scope (.decide context) = true}
    {rest : Except Failure Json → Program Op.Answer Failure scope β}
    (hmay : MayPerform manager claim history (.decide context))
    (hrest : ∀ answer, Follows manager claim budget better (rest answer)
      (history ++ [⟨.decide context, answer⟩])) :
    Follows manager claim (budget + 1) better
      ((Program.ask (Op.decide context) hscope : Program Op.Answer Failure scope Json).attempt.bind
        rest) history := by
  refine Program.obeys_try (fun answer later ↦ later = history ++ [⟨.decide context, answer⟩])
    (Program.obeys_ask hmay fun _ _ ↦ rfl) fun answer later _ hlater ↦ ?_
  subst hlater
  refine Program.obeys_mono (hrest answer) fun result last _ hlast ↦ ?_
  have hcount : consultations last ≤ consultations history + 1 + budget := by
    have hlast := hlast.1
    rw [consultations_append] at hlast
    exact hlast
  exact ⟨by omega, hlast.2⟩

/-- A value that was computed without operations. -/
theorem follows_ofExcept {value : Except Failure α}
    (hok : ∀ result, value = .ok result → good result history)
    (herror : ∀ failure, value = .error failure → Excused manager claim failure history) :
    Follows manager claim budget good (ofExcept value : Program Op.Answer Failure scope α)
      history := by
  cases value with
  | ok result => exact follows_done (hok result rfl)
  | error failure => exact follows_raise (herror failure rfl)

/-- A value that was computed without operations, as it is. -/
theorem follows_computed {value : Except Failure α}
    (herror : ∀ failure, value = .error failure → Excused manager claim failure history) :
    Follows manager claim 0 (fun result later ↦ later = history ∧ value = .ok result)
      (ofExcept value : Program Op.Answer Failure scope α) history :=
  follows_ofExcept (fun _ hok ↦ ⟨rfl, hok⟩) herror

/-- One operation of the workflow store. -/
theorem follows_workflowCall {call : WorkflowCall} {hscope : scope (.store (.workflow call)) = true}
    (hmay : MayCall manager claim history call) :
    Follows manager claim 0
      (fun reply later ↦ later = history ++ [Deed.workflow call (.ok reply)])
      (workflowCall call hscope) history := by
  refine Program.obeys_ask hmay fun answer hpossible ↦ ?_
  refine ⟨by rw [consultations_append]; rfl, ?_⟩
  cases answer with
  | ok reply => rfl
  | error failure => exact excused_of_none hpossible

/-- One operation of the Run store. -/
theorem follows_runCall {call : RunCall} {hscope : scope (.store (.run call)) = true}
    (hmay : MayPerform manager claim history (.store (.run call))) :
    Follows manager claim 0 (fun _ _ ↦ True) (runCall call hscope) history := by
  refine Program.obeys_ask hmay fun answer hpossible ↦ ?_
  refine ⟨by rw [consultations_append]; rfl, ?_⟩
  cases answer with
  | ok reply => trivial
  | error failure => exact excused_of_none hpossible

/-- One operation that is not on a store and does not consult the planner. -/
theorem follows_noted {op : Op} {hscope : scope op = true}
    (hmay : MayPerform manager claim history op)
    (hquiet : ∀ answer, Deed.isConsultation ⟨op, answer⟩ = false)
    (hraises : ∀ failure, ¬ possibleAnswer op (.error failure)) :
    Follows manager claim 0 (fun _ _ ↦ True)
      (Program.ask op hscope : Program Op.Answer Failure scope op.Answer) history := by
  refine Program.obeys_ask hmay fun answer hpossible ↦ ?_
  refine ⟨by rw [consultations_append, hquiet]; rfl, ?_⟩
  cases answer with
  | ok reply => trivial
  | error failure => exact (hraises failure hpossible).elim

/-- One operation of the memory store. -/
theorem follows_memoryCall {call : MemoryCall} {hscope : scope (.store (.memory call)) = true} :
    Follows manager claim 0 (fun _ _ ↦ True) (memoryCall call hscope) history := by
  refine Program.obeys_ask trivial fun answer hpossible ↦ ?_
  refine ⟨by rw [consultations_append]; rfl, ?_⟩
  cases answer with
  | ok reply => trivial
  | error failure => exact excused_of_none hpossible

/-- Where the model follows a loop no further, nothing happens any more. -/
theorem follows_unfollowed {hscope : scope Op.unfollowed = true} :
    Follows manager claim budget good
      ((Program.ask Op.unfollowed hscope).bind Empty.elim : Program Op.Answer Failure scope α)
      history :=
  ⟨trivial, fun _ hpossible ↦ hpossible.elim⟩

end Rules

/-! ### Evidence -/

/-- The context of a claimed Run's attempt. -/
structure Belongs (claim : RunLeaseClaim) (context : RuntimeExecutionContext) : Prop where
  runId : context.runId = claim.run.runId
  leaseToken : context.leaseToken = some claim.leaseToken
  authority : executionAuthority claim.run = .ok context.authority

section Evidence

variable {manager : RuntimeManager} {claim : RunLeaseClaim} {history : History}
  {runId eventType evidenceId : String}

theorem follows_listEvents : Follows manager claim 0
    (fun events later ↦ later = history ++ [Deed.look runId events])
    (WorkflowStore.listEvents runId) history :=
  follows_workflowCall trivial

theorem follows_workflowEvidence : Follows manager claim 0
    (fun found later ↦ ∃ events, later = history ++ [Deed.look runId events] ∧
      found = firstEvidence events eventType evidenceId)
    (workflowEvidence runId eventType evidenceId) history :=
  follows_bind follows_listEvents fun events _ _ hlook ↦ follows_done ⟨events, hlook, rfl⟩

theorem follows_ensureRunEvidence (payload : Payload) (leaseToken : Option String) :
    Follows manager claim 0 (fun _ _ ↦ True)
      (ensureRunEvidence runId eventType payload leaseToken) history := by
  refine follows_bind (follows_runCall trivial) fun events later _ _ ↦ ?_
  simp only [Program.pure_eq_done, Program.discard_eq_bind]
  split_ifs
  · exact follows_done trivial
  · exact follows_bind (follows_runCall trivial) fun _ _ _ _ ↦ follows_done trivial

/-- The log was looked at, and the payload was recorded unless the log showed an equal one. -/
def RecordedAfter (runId eventType evidenceId : String) (payload : Payload)
    (history later : History) : Prop :=
  ∃ events rest, later = history ++ Deed.look runId events :: rest ∧
    ((firstEvidence events eventType evidenceId = none ∧
        Evidenced runId eventType evidenceId payload later) ∨
      ∃ existing, firstEvidence events eventType evidenceId = some existing ∧
        (Json.obj existing).pyEq (.obj payload) = true)

theorem follows_recordEvidence {fields : Payload} {leaseToken : Option String}
    (hrun : runId = claim.run.runId) (hlease : leaseToken = some claim.leaseToken)
    (hmirrored : eventType ∈ mirroredEventTypes)
    (hdecision : eventType = "planner.decision" → ∀ code,
      Payload.getD (("evidence_id", .str evidenceId) :: fields) "error_code" = .str code →
        reportedStatus code = none)
    (hpolicy : eventType = "policy.decision" →
      (Payload.get? (("evidence_id", .str evidenceId) :: fields) "outcome").isSome = true)
    (hresult : eventType = "tool.result" → ∀ stepId,
      Payload.getD (("evidence_id", .str evidenceId) :: fields) "step_id" = .str stepId →
      (∀ code, Payload.getD (("evidence_id", .str evidenceId) :: fields) "error_code" = .str code →
        StepWarranted manager claim history stepId code) ∧
      (Payload.getD (("evidence_id", .str evidenceId) :: fields) "status" = .str "completed" →
        StepSucceeded claim.run.runId stepId history)) :
    Follows manager claim 0
      (fun _ later ↦ RecordedAfter runId eventType evidenceId
        (("evidence_id", .str evidenceId) :: fields) history later)
      (recordEvidence runId eventType evidenceId fields leaseToken) history := by
  refine follows_bind follows_workflowEvidence fun found later hlater hfound ↦ ?_
  obtain ⟨events, rfl, rfl⟩ := hfound
  simp only [Program.bind_eq_bind, Program.discard_eq_bind, Program.bind_bind,
    Program.done_bind]
  split
  · next hnone =>
    have hmay : MayAppend manager claim (history ++ [Deed.look runId events]) eventType
        (("evidence_id", .str evidenceId) :: fields) :=
      { mirrored := hmirrored
        looked := ⟨evidenceId, fields, history, events, rfl, by rw [hrun], hnone⟩
        decision := hdecision
        policy := hpolicy
        result := fun htype stepId code hstep hcode ↦
          ((hresult htype stepId hstep).1 code hcode).mono hlater
        completed := fun htype stepId hstep hstatus ↦
          ((hresult htype stepId hstep).2 hstatus).mono hlater }
    refine follows_bind (follows_workflowCall ⟨hrun, hlease, hmay⟩) fun event recorded _ hevent ↦ ?_
    subst hevent
    refine follows_mono (follows_ensureRunEvidence _ _) fun _ last hlast _ ↦ ?_
    obtain ⟨rest, rfl⟩ := hlast
    refine ⟨events, Deed.workflow (.appendEvent runId eventType
      (("evidence_id", .str evidenceId) :: fields) leaseToken) (.ok event) :: rest, by simp,
      .inl ⟨hnone, .recorded leaseToken event fields rfl (by simp)⟩⟩
  · next existing hsome =>
    split_ifs with hequal
    · refine follows_mono (follows_ensureRunEvidence _ _) fun _ last hlast _ ↦ ?_
      obtain ⟨rest, rfl⟩ := hlast
      exact ⟨events, rest, by simp, .inr ⟨existing, hsome, hequal⟩⟩
    · exact follows_raise (excused_of_code (warranted_of_none rfl))

theorem follows_mirrorEvents (leaseToken : Option String) (events : List EventRow)
    (mirrored : Option (List (String × String))) :
    Follows manager claim 0 (fun _ _ ↦ True) (mirrorEvents runId leaseToken events mirrored)
      history := by
  induction events generalizing mirrored history with
  | nil => exact follows_done trivial
  | cons event rest ih =>
    unfold mirrorEvents
    split
    · exact ih mirrored
    · exact ih mirrored
    · next evidenceId _ _ =>
      have hrest (index : List (String × String)) (later : History) :
          Follows manager claim 0 (fun _ _ ↦ True)
            (if index.contains (event.eventType, evidenceId) then
              mirrorEvents runId leaseToken rest (some index)
            else (appendRunEvent runId event.eventType event.payload leaseToken).bind fun _ ↦
              mirrorEvents runId leaseToken rest
                (some ((event.eventType, evidenceId) :: index))) later := by
        split_ifs
        · exact ih _
        · exact follows_bind (follows_runCall trivial) fun _ _ _ _ ↦ ih _
      cases mirrored with
      | some index =>
        simp only [Program.bind_eq_bind, Program.pure_eq_done, Program.discard_eq_bind,
          Program.bind_bind, Program.done_bind]
        exact hrest index history
      | none =>
        have hindex : Follows manager claim 0 (fun _ _ ↦ True) (runEvidenceIndex runId) history :=
          follows_bind (follows_runCall trivial) fun _ _ _ _ ↦ follows_done trivial
        refine follows_bind hindex fun index later _ _ ↦ ?_
        simp only [Program.bind_eq_bind, Program.discard_eq_bind, Program.bind_bind,
          Program.done_bind]
        exact hrest index later
    · exact follows_bind (follows_ensureRunEvidence _ _) fun _ _ _ _ ↦ ih _

theorem follows_mirrorEvidence (context : RuntimeExecutionContext) :
    Follows manager claim 0 (fun _ _ ↦ True) (mirrorEvidence context) history :=
  follows_bind follows_listEvents fun _ _ _ _ ↦ follows_mirrorEvents _ _ _

variable {context : RuntimeExecutionContext}

theorem follows_recordToolSuccess (hbelongs : Belongs claim context) {stepId : String}
    (toolName : String) (result : Payload)
    (hsucceeded : StepSucceeded claim.run.runId stepId history) :
    Follows manager claim 0 (fun _ _ ↦ True) (recordToolSuccess context stepId toolName result)
      history := by
  refine follows_mono (follows_recordEvidence hbelongs.runId hbelongs.leaseToken (by decide)
    (fun htype ↦ absurd htype (by decide)) (fun htype ↦ absurd htype (by decide))
    fun _ other hstep ↦ ⟨fun code hcode ↦ ?_, fun _ ↦ ?_⟩) fun _ _ _ _ ↦ trivial
  · simp [Payload.getD, Payload.get?, Json.lookup] at hcode
  · have hother : stepId = other := by
      simpa [Payload.getD, Payload.get?, Json.lookup] using hstep
    exact hother ▸ hsucceeded

theorem follows_recordToolFailure (hbelongs : Belongs claim context) {stepId code : String}
    (toolName : String) (hwarranted : StepWarranted manager claim history stepId code) :
    Follows manager claim 0 (fun _ _ ↦ True) (recordToolFailure context stepId toolName code)
      history := by
  refine follows_mono (follows_recordEvidence hbelongs.runId hbelongs.leaseToken (by decide)
    (fun htype ↦ absurd htype (by decide)) (fun htype ↦ absurd htype (by decide))
    fun _ other hstep ↦ ⟨fun otherCode hcode ↦ ?_, fun hstatus ↦ ?_⟩) fun _ _ _ _ ↦ trivial
  · have hother : stepId = other := by
      simpa [Payload.getD, Payload.get?, Json.lookup] using hstep
    have hcodes : code = otherCode := by
      simpa [Payload.getD, Payload.get?, Json.lookup] using hcode
    exact hother ▸ hcodes ▸ hwarranted
  · simp [Payload.getD, Payload.get?, Json.lookup] at hstatus

/-! ### Failing -/

theorem follows_closeFailed (hbelongs : Belongs claim context) {code : String} (message : String)
    (hwarranted : Warranted manager claim history code) :
    Follows manager claim 0 (fun _ _ ↦ False) (closeFailed context code message) history := by
  have hraise (later : History) (hlater : history <+: later) :
      Follows manager claim 0 (fun _ _ ↦ False) (raiseExecution code message : Plain Empty)
        later :=
    follows_raise (excused_of_code (hwarranted.mono hlater))
  refine follows_bind (follows_widen (follows_workflowCall trivial)) fun found later hlater _ ↦ ?_
  simp only [Program.bind_eq_bind, Program.discard_eq_bind]
  split
  · split_ifs
    · simp only [Program.bind_bind, Program.done_bind]
      refine follows_bind (follows_workflowCall ⟨hbelongs.runId, hbelongs.leaseToken,
        hwarranted.mono hlater⟩) fun _ last hlast _ ↦ ?_
      exact hraise last (hlater.trans hlast)
    · exact hraise later hlater
  · exact hraise later hlater

/-- `_fail` raises the code, or says that the recorded outcome is another one. -/
theorem follows_failLoop (hbelongs : Belongs claim context) {code : String} (detail : String)
    (hwarranted : Warranted manager claim history code) :
    Follows manager claim 0 (fun _ _ ↦ False) (failLoop context code detail) history := by
  have hinvalid (later : History) (message : String) : Follows manager claim 0 (fun _ _ ↦ False)
      (raiseExecution "invalid_planner_decision" message : Plain Empty) later :=
    follows_raise (excused_of_code (warranted_of_none rfl))
  refine follows_bind (follows_widen follows_workflowEvidence) fun found later hlater _ ↦ ?_
  split
  · refine follows_bind (follows_widen (follows_recordEvidence hbelongs.runId hbelongs.leaseToken
      (by decide) (fun htype ↦ absurd htype (by decide)) (fun htype ↦ absurd htype (by decide))
      fun htype ↦ absurd htype (by decide))) fun _ last hlast _ ↦ ?_
    exact follows_closeFailed hbelongs _ (hwarranted.mono (hlater.trans hlast))
  · split_ifs
    · exact hinvalid _ _
    · split
      · split_ifs
        · exact hinvalid _ _
        · refine follows_bind (follows_widen (follows_ensureRunEvidence _ _))
            fun _ last hlast _ ↦ ?_
          exact follows_closeFailed hbelongs _ (hwarranted.mono (hlater.trans hlast))
      · exact hinvalid _ _

end Evidence

end AgentRuntime.Execution
