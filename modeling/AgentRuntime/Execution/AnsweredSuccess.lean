import AgentRuntime.Store.ActionOrigins
import AgentRuntime.Execution.HonestAttempts
import AgentRuntime.Execution.DefinitiveFailure

/-!
# A recorded success is a provider's answer

The system keeps the answers of all provider calls. Since its attempts are honest, every SUCCEEDED
action of every run stands on a call of its provider that returned the reference and the result
which the row shows. The invariant is about any attempts that keep the discipline, so that other
runtimes than the registered loops can use it.
-/

set_option autoImplicit false
set_option relaxedAutoImplicit false

namespace AgentRuntime.Execution

open Library Store

/-! ### The calls of a run -/

/-- A call of a provider as it may look later. -/
structure CallKept (call later : ProviderCall) : Prop where
  worker : later.worker = call.worker
  providerName : later.providerName = call.providerName
  dispatch : later.dispatch = call.dispatch
  request : later.request = call.request
  answer : ∀ answer, call.answer = some answer → later.answer = some answer

theorem CallKept.refl (call : ProviderCall) : CallKept call call :=
  ⟨rfl, rfl, rfl, rfl, fun _ hanswer ↦ hanswer⟩

/-- Every call is kept. -/
def CallsKept (calls later : List ProviderCall) : Prop :=
  ∀ call ∈ calls, ∃ next ∈ later, CallKept call next

theorem callsKept_of_subset {calls later : List ProviderCall} (hsubset : calls ⊆ later) :
    CallsKept calls later :=
  fun call hmem ↦ ⟨call, hsubset hmem, .refl call⟩

theorem callsKept_answered (calls : List ProviderCall) (worker : Nat) (runId stepId : String)
    (dispatch : Nat) (answer : Except Failure Json) :
    CallsKept calls (answeredCalls calls worker runId stepId dispatch answer) := by
  intro call hmem
  refine ⟨_, List.mem_map_of_mem hmem, ?_⟩
  by_cases hopen : call.isOpen worker runId stepId dispatch = true
  · rw [if_pos hopen]
    refine ⟨rfl, rfl, rfl, rfl, fun other hanswered ↦ ?_⟩
    rw [(isOpen_iff.mp hopen).2] at hanswered
    cases hanswered
  · rw [if_neg hopen]
    exact .refl call

theorem callsKept_applyEffect (world : World) (index : Nat) :
    CallsKept world.calls (world.applyEffect index).calls := by
  intro call hmem
  obtain ⟨position, hposition, rfl⟩ := List.getElem_of_mem hmem
  have hlength : position < (world.applyEffect index).calls.length := by
    simpa [World.applyEffect] using hposition
  refine ⟨(world.applyEffect index).calls[position], List.getElem_mem hlength, ?_⟩
  simp only [World.applyEffect, List.getElem_modify]
  split_ifs
  · exact .refl _
  · exact ⟨rfl, rfl, rfl, rfl, fun _ hanswer ↦ hanswer⟩
  · exact .refl _

section Calls

variable {hasher : Hasher} {world next : World} {worker : Nat} {op : Op} {response : Response}
  {answer : Except Failure op.Answer}

theorem callsKept_of_perform
    (hperform : world.perform hasher worker op response = some (answer, next)) :
    CallsKept world.calls next.calls := by
  rcases calls_of_perform hperform with hsame | ⟨providerName, dispatch, request, -, -, hentered⟩ |
    ⟨runId, stepId, dispatch, given, -, -, hanswered⟩
  · rw [hsame]
    exact callsKept_of_subset (List.Subset.refl _)
  · rw [hentered]
    exact callsKept_of_subset (List.subset_append_left _ _)
  · rw [hanswered]
    exact callsKept_answered _ _ _ _ _ _

end Calls

/-! ### The invariant -/

/-- A call of the worker for a step returned this value. -/
def Returned (calls : List ProviderCall) (worker : Nat) (runId stepId : String) (dispatch : Nat)
    (raw : Json) : Prop :=
  ∃ call ∈ calls, call.commit = ⟨worker, runId, stepId, dispatch⟩ ∧ call.answer = some (.ok raw)

theorem Returned.kept {calls later : List ProviderCall} {worker dispatch : Nat}
    {runId stepId : String} {raw : Json}
    (hreturned : Returned calls worker runId stepId dispatch raw) (hkept : CallsKept calls later) :
    Returned later worker runId stepId dispatch raw := by
  obtain ⟨call, hmem, hcommit, hanswer⟩ := hreturned
  obtain ⟨next, hnext, hcall⟩ := hkept call hmem
  refine ⟨next, hnext, ?_, hcall.answer _ hanswer⟩
  rw [← hcommit]
  unfold ProviderCall.commit
  rw [hcall.worker, hcall.request, hcall.dispatch]

/-- What a worker was told is the answer of its call. -/
theorem returned_of_perform {hasher : Hasher} {world next : World} {worker dispatch : Nat}
    {runId stepId : String} {response : Response} {raw : Json}
    (hperform : world.perform hasher worker (.awaitProvider runId stepId dispatch) response =
      some (.ok raw, next)) : Returned next.calls worker runId stepId dispatch raw := by
  cases response with
  | provider given =>
    simp only [World.perform] at hperform
    split_ifs at hperform with hfits
    obtain ⟨rfl, rfl⟩ := Prod.mk.inj (Option.some.inj hperform)
    rw [Bool.and_eq_true, List.any_eq_true] at hfits
    obtain ⟨⟨call, hmem, hopen⟩, -⟩ := hfits
    refine ⟨_, List.mem_map_of_mem hmem, ?_⟩
    rw [if_pos hopen]
    exact ⟨(isOpen_iff.mp hopen).1, rfl⟩
  | _ => cases hperform

/-- The row shows the answer of a call for its action. -/
def StandsOnAnswer (trust : RunLeaseClaim → AnswerTrust) (system : System) (key : String × String)
    (row : ExternalActionRow) : Prop :=
  ∃ worker claim dispatch raw result reference, system.claims[worker]? = some claim ∧
    Returned system.world.calls worker key.1 key.2 dispatch raw ∧
    trust claim raw result reference ∧
    row.resultJson = some result.sortKeys ∧ row.providerReference = some reference

/-- What holds of the system and the log of its run. -/
structure AnswerInv (trust : RunLeaseClaim → AnswerTrust) (system : System)
    (log : List (Nat × Deed)) : Prop where
  answered : ∀ worker runId stepId dispatch raw,
    (⟨.awaitProvider runId stepId dispatch, .ok raw⟩ : Deed) ∈ historyOf worker log →
      Returned system.world.calls worker runId stepId dispatch raw
  rows : ∀ key row, system.world.db.externalActions.find key = some row →
    row.status = .succeeded → StandsOnAnswer trust system key row
  programs : ∀ worker program, system.workers worker = some program →
    ∃ claim, system.claims[worker]? = some claim ∧
      program.Obeys (honesty (trust claim) (some claim.leaseToken)) (fun _ _ ↦ True)
        (historyOf worker log)

section Invariant

variable {hasher : Hasher} {trust : RunLeaseClaim → AnswerTrust}
  {attempt : RunLeaseClaim → Manager Unit} {system : System} {log : List (Nat × Deed)}

theorem answerInv_init (trust : RunLeaseClaim → AnswerTrust) : AnswerInv trust System.init [] where
  answered worker runId stepId dispatch raw hdeed := by cases hdeed
  rows key row hfind := by cases hfind
  programs worker program hprogram := by cases hprogram

theorem StandsOnAnswer.later {key : String × String} {row : ExternalActionRow} {later : System}
    (hstands : StandsOnAnswer trust system key row)
    (hclaims : system.claims <+: later.claims)
    (hkept : CallsKept system.world.calls later.world.calls) :
    StandsOnAnswer trust later key row := by
  obtain ⟨worker, claim, dispatch, raw, result, reference, hclaim, hreturned, htrusted, hrow⟩ :=
    hstands
  exact ⟨worker, claim, dispatch, raw, result, reference, prefix_keeps_claim hclaims hclaim,
    hreturned.kept hkept, htrusted, hrow⟩

/-- Other processes change no action. -/
theorem AnswerInv.sameActions (hinv : AnswerInv trust system log) {db : Database}
    (hsame : db.externalActions = system.world.db.externalActions) :
    AnswerInv trust (system.withDatabase db) log where
  answered := hinv.answered
  rows key row hfind hstatus := by
    have hfound : system.world.db.externalActions.find key = some row := hsame ▸ hfind
    exact (hinv.rows key row hfound hstatus).later List.prefix_rfl
      (callsKept_of_subset (List.Subset.refl _))
  programs := hinv.programs

/-- An attempt starts. -/
theorem AnswerInv.started (hinv : AnswerInv trust system log) {claim : RunLeaseClaim}
    (hattempt : Honest (trust claim) (some claim.leaseToken) (attempt claim)) :
    AnswerInv trust
      { system with
        workers := Function.update system.workers system.claims.length (some (attempt claim))
        claims := system.claims ++ [claim] } log where
  answered := hinv.answered
  rows key row hfind hstatus := (hinv.rows key row hfind hstatus).later (List.prefix_append _ _)
    (callsKept_of_subset (List.Subset.refl _))
  programs worker program hprogram := by
    by_cases heq : worker = system.claims.length
    · subst heq
      have hprogram : some (attempt claim) = some program := by simpa using hprogram
      obtain rfl := Option.some.inj hprogram
      exact ⟨claim, by simp, hattempt.obeys _⟩
    · have hprogram : system.workers worker = some program := by
        simpa [Function.update_of_ne heq] using hprogram
      obtain ⟨other, hother, hobeys⟩ := hinv.programs worker program hprogram
      exact ⟨other, prefix_keeps_claim (List.prefix_append _ _) hother, hobeys⟩

/-- A SUCCEEDED row after an operation was there before, or the operation recorded what a provider
said. -/
theorem succeeded_of_perform {world : World} {worker : Nat} {op : Op} {response : Response}
    {answer : Except Failure op.Answer}
    (hperform : system.world.perform hasher worker op response = some (answer, world))
    {key : String × String} {row : ExternalActionRow}
    (hfind : world.db.externalActions.find key = some row) (hstatus : row.status = .succeeded) :
    system.world.db.externalActions.find key = some row ∨
      ∃ dispatch attempt result reference code,
        op = .store (.workflow (.finalizeExternalActionSucceeded key.1 key.2 dispatch attempt result
          reference code)) ∧
          row.resultJson = some result.sortKeys ∧ row.providerReference = some reference := by
  rcases db_of_perform hperform with hsame | ⟨call, reading, fault, rfl, -, happly⟩
  · exact .inl (hsame ▸ hfind)
  · rw [happly] at hfind
    rcases ledger_of_apply hasher system.world.db ⟨reading, call⟩ with hsame |
      ⟨other, hcall, hchange⟩
    · exact .inl (hsame.2.2.1 ▸ hfind)
    · dsimp only at hcall
      subst hcall
      refine (succeeded_of_workflow hchange hfind hstatus).imp_right ?_
      rintro ⟨dispatch, attempt, result, reference, code, rfl, hrow⟩
      exact ⟨dispatch, attempt, result, reference, code, rfl, hrow⟩

/-- A worker performs an operation. -/
theorem AnswerInv.performed (hinv : AnswerInv trust system log) {worker : Nat} {op : Op}
    {hscope : Op.manager op = true} {next : Except Failure op.Answer → Manager Unit}
    {answer : Except Failure op.Answer} {world : World} {response : Response}
    (hworker : system.workers worker = some (.call op hscope next))
    (hperform : system.world.perform hasher worker op response = some (answer, world)) :
    AnswerInv trust
      { system with
        world := world
        workers := Function.update system.workers worker (some (next answer)) }
      (log ++ [(worker, ⟨op, answer⟩)]) := by
  obtain ⟨claim, hclaim, hallowed, hobeys⟩ := hinv.programs worker _ hworker
  have hkept := callsKept_of_perform hperform
  constructor
  case answered =>
    intro other runId stepId dispatch raw hdeed
    rw [historyOf_snoc] at hdeed
    by_cases heq : worker = other
    · subst heq
      rw [if_pos rfl] at hdeed
      rcases List.mem_append.mp hdeed with hold | hlast
      · exact (hinv.answered worker runId stepId dispatch raw hold).kept hkept
      · obtain ⟨rfl, hanswer⟩ := Performed.mk.inj (List.mem_singleton.mp hlast)
        obtain rfl := eq_of_heq hanswer
        exact returned_of_perform hperform
    · rw [if_neg heq] at hdeed
      exact (hinv.answered other runId stepId dispatch raw hdeed).kept hkept
  case rows =>
    intro key row hfind hstatus
    rcases succeeded_of_perform hperform hfind hstatus with hold |
      ⟨dispatch, attempt, result, reference, code, rfl, hresult, hreference⟩
    · exact (hinv.rows key row hold hstatus).later List.prefix_rfl hkept
    · obtain ⟨number, raw, hdeed, htrusted⟩ := hallowed
      exact ⟨worker, claim, number, raw, result, reference, hclaim,
        (hinv.answered worker _ _ number raw hdeed).kept hkept, htrusted, hresult, hreference⟩
  case programs =>
    intro other program hprogram
    rw [historyOf_snoc]
    by_cases heq : worker = other
    · subst heq
      have hprogram : some (next answer) = some program := by simpa using hprogram
      obtain rfl := Option.some.inj hprogram
      rw [if_pos rfl]
      exact ⟨claim, hclaim, hobeys answer trivial⟩
    · have hprogram : system.workers other = some program := by
        simpa [Function.update_of_ne (Ne.symm heq)] using hprogram
      rw [if_neg heq]
      exact hinv.programs other program hprogram

/-- Every event keeps the invariant, with what it adds to the log. -/
theorem AnswerInv.next (hinv : AnswerInv trust system log)
    (hattempt : ∀ claim, Honest (trust claim) (some claim.leaseToken) (attempt claim))
    (label : Label) : AnswerInv trust (system.nextWith hasher attempt label)
      (log ++ deeds hasher system label) := by
  cases label with
  | work worker response =>
    show AnswerInv trust (system.work hasher worker response) _
    rcases work_cases hasher system worker response with ⟨hsame, hnone⟩ |
      ⟨op, hscope, next, answer, world, hworker, hperform, hnext, hdeeds⟩
    · rw [hsame, hnone, List.append_nil]
      exact hinv
    · rw [hnext, hdeeds]
      exact hinv.performed hworker hperform
  | crash worker =>
    show AnswerInv trust _ (log ++ [])
    rw [List.append_nil]
    refine ⟨hinv.answered, hinv.rows, fun other program hprogram ↦ hinv.programs other program ?_⟩
    by_cases heq : other = worker
    · subst heq
      simp [System.nextWith, System.next] at hprogram
    · simpa [System.nextWith, System.next, Function.update_of_ne heq] using hprogram
  | claim reading ownerId duration =>
    show AnswerInv trust _ (log ++ [])
    rw [List.append_nil]
    simp only [System.nextWith, System.claimWith]
    split
    · next claim after hclaim =>
      have hsame := (onlyRunTables_of_claimNextRun hclaim).1
      exact (hinv.sameActions hsame.2.2.1).started (hattempt claim)
    · next after hclaim =>
      have hsame := (onlyRunTables_of_claimNextRun hclaim).1
      exact hinv.sameActions hsame.2.2.1
    · exact hinv
  | control reading call =>
    show AnswerInv trust _ (log ++ [])
    rw [List.append_nil]
    simp only [System.nextWith, System.next]
    split_ifs with hcontrol
    · exact hinv.sameActions (sameLedger_of_control hcontrol).1.2.2.1
    · exact hinv
  | applyEffect index =>
    show AnswerInv trust _ (log ++ [])
    rw [List.append_nil]
    have hkept := callsKept_applyEffect system.world index
    exact ⟨fun worker runId stepId dispatch raw hdeed ↦
      (hinv.answered worker runId stepId dispatch raw hdeed).kept hkept,
      fun key row hfind hstatus ↦ (hinv.rows key row hfind hstatus).later List.prefix_rfl hkept,
      hinv.programs⟩

/-- The invariant holds after every run of honest attempts. -/
theorem answerInv_run
    (hattempt : ∀ claim, Honest (trust claim) (some claim.leaseToken) (attempt claim))
    (labels : List Label) :
    AnswerInv trust ((attemptMachine hasher attempt).run System.init labels)
      ((attemptMachine hasher attempt).log (deeds hasher) System.init labels) :=
  (attemptMachine hasher attempt).invariant_log (AnswerInv trust)
    (fun _ _ label hinv _ ↦ hinv.next hattempt label) (answerInv_init trust)
    ((attemptMachine hasher attempt).admits_true _ labels)

end Invariant

/-- No success is invented. After every run of the system, a SUCCEEDED action stands on a call that
was made for it and returned: the row carries the reference that the provider gave and, with its
keys sorted, the result that the output schema of a registered tool makes of the provider's
answer. -/
theorem success_was_answered (hasher : Hasher) (manager : RuntimeManager) (labels : List Label) :
    let system := (systemMachine hasher manager).run System.init labels
    ∀ key row, system.world.db.externalActions.find key = some row → row.status = .succeeded →
      ∃ call ∈ system.world.calls, call.action = key ∧
        ∃ claim ∈ system.claims, ∃ raw result reference, call.answer = some (.ok raw) ∧
          TrustedAnswer manager claim raw result reference ∧
          row.resultJson = some result.sortKeys ∧ row.providerReference = some reference := by
  intro system key row hfind hstatus
  have hinv := @answerInv_run hasher _ _ (honest_executeOwnedRun manager) labels
  rw [attemptMachine_executeOwnedRun] at hinv
  obtain ⟨worker, claim, dispatch, raw, result, reference, hclaim, hreturned, htrusted, hresult,
    hreference⟩ := hinv.rows key row hfind hstatus
  obtain ⟨call, hmem, hcommit, hanswer⟩ := hreturned
  refine ⟨call, hmem, ?_, claim, List.mem_of_getElem? hclaim, raw, result, reference, hanswer,
    htrusted, hresult, hreference⟩
  exact congrArg (fun commit : DispatchCommit ↦ (commit.runId, commit.stepId)) hcommit

end AgentRuntime.Execution
