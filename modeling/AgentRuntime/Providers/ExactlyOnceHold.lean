import AgentRuntime.Providers.TripHold
import AgentRuntime.Execution.AnsweredSuccess
import AgentRuntime.Execution.StoreRequests
import AgentRuntime.Execution.BoundedDispatch

/-!
# Exactly one hold, end to end

The runtime and `SQLiteTripHoldProvider` keep their ledgers in two databases, and a worker or the
provider may fail between any two transactions. `holdMachine` is the whole system together with the
provider: the transaction of a provider call takes place at any moment after the call was made, once
or several times, or never, and the worker that waits for it is told what the transaction returned,
or gets some other exception.

No assumption about hashes is needed. The idempotency keys of actions are unique in the runtime's
ledger, so all calls under one key carry one request, and the provider never meets a key with other
arguments; two keys whose references collide violate the constraint of the provider's table, so the
second hold does not come about.
-/

set_option autoImplicit false
set_option relaxedAutoImplicit false

namespace AgentRuntime.Providers

open Library Store Execution

/-- `ExternalActionProviderResult` as the dispatcher gets it. -/
def resultJson (result : ProviderResult) : Json :=
  .obj [("provider_reference", .str result.providerReference), ("result", .obj result.result)]

/-! ### The composition -/

/-- The runtime, the holds, and what the transaction of each provider call returned. -/
structure HoldSystem where
  system : System
  holds : TripHolds
  served : List (DispatchCommit × Except TripHoldFailure ProviderResult)

/-- An event of the runtime, or the transaction of a provider call. -/
inductive HoldLabel where
  | runtime (label : Label)
  | transact (index : Nat)

/-- A call may return what its transaction returned, raise definitively if that did, and raise
anything else. -/
def answerFits (served : List (DispatchCommit × Except TripHoldFailure ProviderResult))
    (commit : DispatchCommit) : Except Failure Json → Bool
  | .ok raw => served.any fun entry ↦ entry.1 == commit &&
    match entry.2 with
    | .ok result => resultJson result == raw
    | .error _ => false
  | .error .definitive => served.any fun entry ↦ entry.1 == commit &&
    match entry.2 with
    | .error (.definitive _) => true
    | _ => false
  | .error _ => true

namespace HoldSystem

variable (hasher : Hasher) (manager : RuntimeManager) (provider : SQLiteTripHoldProvider)
  (providerName : String)

/-- Nothing happened yet. -/
def init : HoldSystem := ⟨.init, .empty, []⟩

/-- A call of the provider under this commit is waited for. -/
def isHoldCall (state : HoldSystem) (commit : DispatchCommit) : Bool :=
  state.system.world.calls.any fun call ↦ call.commit == commit && call.providerName == providerName

/-- The worker of a provider call is told what the provider returned. -/
def fits (state : HoldSystem) : Label → Bool
  | .work worker (.provider answer) =>
    match state.system.workers worker with
    | some (.call (.awaitProvider runId stepId dispatch) _ _) =>
      !state.isHoldCall providerName ⟨worker, runId, stepId, dispatch⟩ ||
        answerFits state.served ⟨worker, runId, stepId, dispatch⟩ answer
    | _ => true
  | _ => true

/-- The transaction of a call. -/
def transact (state : HoldSystem) (index : Nat) : HoldSystem :=
  match state.system.world.calls[index]? with
  | none => state
  | some call =>
    if call.providerName = providerName then
      let (result, holds) := provider.execute state.holds call.request
      { system :=
          match result with
          | .ok _ => { state.system with world := state.system.world.applyEffect index }
          | .error _ => state.system
        holds := holds
        served := state.served ++ [(call.commit, result)] }
    else state

/-- The state after one event. -/
def next (state : HoldSystem) : HoldLabel → HoldSystem
  | .runtime label =>
    if state.fits providerName label then
      { state with system := state.system.next hasher manager label }
    else state
  | .transact index => state.transact provider providerName index

end HoldSystem

/-- The composition, driven by events in any order. -/
def holdMachine (hasher : Hasher) (manager : RuntimeManager) (provider : SQLiteTripHoldProvider)
    (providerName : String) : Machine HoldSystem HoldLabel where
  init := .init
  next := HoldSystem.next hasher manager provider providerName

/-- `uuid4` never repeats the text of an earlier dispatch token. -/
def FreshHoldTokens (state : HoldSystem) : HoldLabel → Prop
  | .runtime label => FreshTokens state.system label
  | .transact _ => True

instance FreshHoldTokens.decidable (state : HoldSystem) :
    (label : HoldLabel) → Decidable (FreshHoldTokens state label)
  | .runtime label => inferInstanceAs (Decidable (FreshTokens state.system label))
  | .transact _ => isTrue trivial

/-! ### Requests and keys -/

section Requests

variable {deployment : Deployment} {world : World}

/-- Calls under one idempotency key carry one request. -/
theorem request_of_key (haccounted : Accounted deployment world) (hunique : KeysUnique world.db)
    {call other : ProviderCall} (hcall : call ∈ world.calls) (hother : other ∈ world.calls)
    (hkey : call.request.idempotencyKey = other.request.idempotencyKey) :
    call.request = other.request := by
  obtain ⟨row, hrow⟩ := haccounted.entered call hcall
  obtain ⟨hold, hhold⟩ := haccounted.entered other hother
  have hrowKey : call.request.idempotencyKey = row.idempotencyKey :=
    (externalActionRequest_columns hrow.request).2.1
  have hholdKey : other.request.idempotencyKey = hold.idempotencyKey :=
    (externalActionRequest_columns hhold.request).2.1
  have haction : call.action = other.action := by
    refine hunique _ _ row hold hrow.find hhold.find ?_
    rw [← hrowKey, ← hholdKey, hkey]
  have hsame : row = hold := by
    have hfind := hrow.find
    rw [haction, hhold.find] at hfind
    exact (Option.some.inj hfind).symm
  obtain ⟨hrunId, hstepId⟩ := Prod.mk.inj haction
  have hrequest := hrow.request
  rw [hsame, hrunId, hstepId, hhold.request] at hrequest
  exact (Except.ok.inj hrequest).symm

/-- A call that spent a dispatch is known by its commit. -/
theorem call_of_commit (haccounted : Accounted deployment world) {call other : ProviderCall}
    (hcall : call ∈ world.calls) (hother : other ∈ world.calls)
    (hcommit : call.commit = other.commit) : call = other := by
  refine List.inj_on_of_nodup_map haccounted.calls_nodup hcall hother ?_
  exact congrArg (fun commit : DispatchCommit ↦
    ((commit.runId, commit.stepId), commit.dispatch)) hcommit

end Requests

/-! ### The runtime's side -/

section Runtime

variable {hasher : Hasher} {manager : RuntimeManager} {deployment : Deployment} {system : System}

/-- An event keeps every call. -/
theorem callsKept_next (hasher : Hasher) (manager : RuntimeManager) (system : System)
    (label : Label) :
    CallsKept system.world.calls (system.next hasher manager label).world.calls := by
  have hsame : CallsKept system.world.calls system.world.calls :=
    callsKept_of_subset (List.Subset.refl _)
  cases label with
  | work worker response =>
    show CallsKept _ (system.work hasher worker response).world.calls
    rcases work_cases hasher system worker response with ⟨hwork, -⟩ |
      ⟨op, hscope, next, answer, world, -, hperform, hwork, -⟩
    · rw [hwork]
      exact hsame
    · rw [hwork]
      exact callsKept_of_perform hperform
  | crash worker => exact hsame
  | claim reading ownerId duration =>
    simp only [System.next, System.claim]
    split <;> exact hsame
  | control reading call =>
    simp only [System.next]
    split_ifs <;> exact hsame
  | applyEffect index => exact callsKept_applyEffect system.world index

/-- A call that has its answer had it before, or its worker was told so by this event. -/
theorem answer_of_next {label : Label} {call : ProviderCall} {answer : Except Failure Json}
    (hcall : call ∈ (system.next hasher manager label).world.calls)
    (hanswer : call.answer = some answer) :
    ∃ old ∈ system.world.calls, old.commit = call.commit ∧ old.providerName = call.providerName ∧
      (old.answer = some answer ∨
        ∃ hscope next, label = .work call.worker (.provider answer) ∧
          system.workers call.worker = some (.call
            (.awaitProvider call.request.runId call.request.stepId call.dispatch) hscope
              next)) := by
  have hsame (hold : call ∈ system.world.calls) :
      ∃ old ∈ system.world.calls, old.commit = call.commit ∧
        old.providerName = call.providerName ∧ (old.answer = some answer ∨
        ∃ hscope next, label = .work call.worker (.provider answer) ∧
          system.workers call.worker = some (.call
            (.awaitProvider call.request.runId call.request.stepId call.dispatch) hscope next)) :=
    ⟨call, hold, rfl, rfl, .inl hanswer⟩
  cases label with
  | work worker response =>
    have hcall : call ∈ (system.work hasher worker response).world.calls := hcall
    rcases work_cases hasher system worker response with ⟨hwork, -⟩ |
      ⟨op, hscope, next, given, world, hworker, hperform, hwork, -⟩
    · rw [hwork] at hcall
      exact hsame hcall
    · rw [hwork] at hcall
      have hcall : call ∈ world.calls := hcall
      rcases calls_of_perform hperform with hkept | ⟨name, dispatch, request, -, -, hentered⟩ |
        ⟨runId, stepId, dispatch, told, hop, hresponse, hanswered⟩
      · exact hsame (hkept ▸ hcall)
      · rw [hentered] at hcall
        rcases List.mem_append.mp hcall with hold | hnew
        · exact hsame hold
        · rw [List.mem_singleton.mp hnew] at hanswer
          cases hanswer
      · subst hop
        rw [hanswered] at hcall
        obtain ⟨old, hold, hlater⟩ := List.mem_map.mp hcall
        by_cases hopen : old.isOpen worker runId stepId dispatch = true
        · rw [if_pos hopen] at hlater
          subst hlater
          obtain rfl := Option.some.inj hanswer
          obtain ⟨rfl, rfl, rfl, rfl⟩ := DispatchCommit.mk.inj (isOpen_iff.mp hopen).1
          exact ⟨old, hold, rfl, rfl, .inr ⟨hscope, next, by rw [hresponse], hworker⟩⟩
        · rw [if_neg hopen] at hlater
          subst hlater
          exact ⟨old, hold, rfl, rfl, .inl hanswer⟩
  | crash worker => exact hsame hcall
  | claim reading ownerId duration =>
    refine hsame ?_
    simp only [System.next, System.claim] at hcall
    split at hcall <;> exact hcall
  | control reading call =>
    refine hsame ?_
    simp only [System.next] at hcall
    split_ifs at hcall <;> exact hcall
  | applyEffect index =>
    have hcall : call ∈ system.world.calls.modify index fun call ↦
        if call.isDefinitive then call else { call with applied := true } := hcall
    obtain ⟨position, hposition, rfl⟩ := List.getElem_of_mem hcall
    have hlength : position < system.world.calls.length := by simpa using hposition
    refine ⟨system.world.calls[position], List.getElem_mem hlength, ?_⟩
    rw [List.getElem_modify] at hanswer ⊢
    split_ifs at hanswer ⊢ <;> exact ⟨rfl, rfl, .inl hanswer⟩

/-- What holds of the runtime, whatever its providers do. -/
structure RuntimeInv (hasher : Hasher) (manager : RuntimeManager) (deployment : Deployment)
    (system : System) : Prop where
  accounted : SystemAccounted hasher deployment system
  answers : ∃ log, AnswerInv (TrustedAnswer manager) system log
  keys : KeysUnique system.world.db

theorem runtimeInv_init (hasher : Hasher) (manager : RuntimeManager) (deployment : Deployment) :
    RuntimeInv hasher manager deployment .init where
  accounted := systemAccounted_init
  answers := ⟨[], answerInv_init _⟩
  keys := fun _ _ _ _ hrow ↦ by cases hrow

theorem RuntimeInv.next (hinv : RuntimeInv hasher manager deployment system)
    (hdeploys : manager.Deploys deployment) (label : Label) (hfresh : FreshTokens system label) :
    RuntimeInv hasher manager deployment (system.next hasher manager label) where
  accounted := (systemAccounted_next hdeploys system label hinv.accounted hfresh).1
  answers := by
    obtain ⟨log, hlog⟩ := hinv.answers
    rw [← system.nextWith_executeOwnedRun hasher manager label]
    exact ⟨_, hlog.next (honest_executeOwnedRun manager) label⟩
  keys := by
    rcases database_of_next hasher manager system label with hsame | ⟨request, hrequest⟩
    · rw [hsame]
      exact hinv.keys
    · rw [hrequest]
      exact hinv.keys.apply request

end Runtime

/-! ### The invariant of the composition -/

/-- A hold was made by the transaction of this call. -/
def HeldBy (provider : SQLiteTripHoldProvider) (call : ProviderCall) (hold : TripHoldRow) : Prop :=
  ∃ arguments, provider.validate call.request = .ok arguments ∧
    hold = provider.holdRow call.request.idempotencyKey arguments

/-- What the transaction of a request returned is still true: a success is the hold of its key, and
a definitive failure was raised for the request itself. -/
def StillTrue (provider : SQLiteTripHoldProvider) (holds : TripHolds)
    (request : ExternalActionRequest) : Except TripHoldFailure ProviderResult → Prop
  | .ok result => ∃ hold, holds.find request.idempotencyKey = some hold ∧
    hold.providerReference = result.providerReference
  | .error (.definitive _) => ∃ failure, provider.validate request = .error failure
  | .error _ => True

theorem StillTrue.grows {provider : SQLiteTripHoldProvider} {holds later : TripHolds}
    {request : ExternalActionRequest} {result : Except TripHoldFailure ProviderResult}
    (htrue : StillTrue provider holds request result)
    (hgrows : ∀ key hold, holds.find key = some hold → later.find key = some hold) :
    StillTrue provider later request result := by
  unfold StillTrue at htrue ⊢
  split at htrue
  · obtain ⟨hold, hfind, hreference⟩ := htrue
    exact ⟨hold, hgrows _ hold hfind, hreference⟩
  · exact htrue
  · trivial

/-- The answers that fit go on fitting. -/
theorem answerFits_append
    {served more : List (DispatchCommit × Except TripHoldFailure ProviderResult)}
    {commit : DispatchCommit} {answer : Except Failure Json}
    (hfits : answerFits served commit answer = true) :
    answerFits (served ++ more) commit answer = true := by
  unfold answerFits at hfits ⊢
  split at hfits
  · rw [List.any_append, hfits, Bool.true_or]
  · rw [List.any_append, hfits, Bool.true_or]
  · rfl

section Composition

variable (hasher : Hasher) (manager : RuntimeManager) (deployment : Deployment)
  (provider : SQLiteTripHoldProvider) (providerName : String)

/-- What holds of the two ledgers together. -/
structure HoldInv (state : HoldSystem) : Prop where
  runtime : RuntimeInv hasher manager deployment state.system
  held : ∀ key hold, state.holds.find key = some hold →
    ∃ call ∈ state.system.world.calls, call.providerName = providerName ∧
      call.request.idempotencyKey = key ∧ HeldBy provider call hold
  served : ∀ entry ∈ state.served, ∃ call ∈ state.system.world.calls, call.commit = entry.1 ∧
    call.providerName = providerName ∧ StillTrue provider state.holds call.request entry.2
  answered : ∀ call ∈ state.system.world.calls, call.providerName = providerName →
    ∀ answer, call.answer = some answer → answerFits state.served call.commit answer = true

variable {hasher manager deployment provider providerName} {state : HoldSystem}

theorem holdInv_init : HoldInv hasher manager deployment provider providerName .init where
  runtime := runtimeInv_init hasher manager deployment
  held key hold hfind := by cases hfind
  served entry hentry := by cases hentry
  answered call hcall := by cases hcall

theorem commit_of_callKept {call later : ProviderCall} (hkept : CallKept call later) :
    later.commit = call.commit := by
  unfold ProviderCall.commit
  rw [hkept.worker, hkept.request, hkept.dispatch]

/-- An event of the runtime. -/
theorem HoldInv.runs (hinv : HoldInv hasher manager deployment provider providerName state)
    (hdeploys : manager.Deploys deployment) (label : Label)
    (hfresh : FreshTokens state.system label) (hfits : state.fits providerName label = true) :
    HoldInv hasher manager deployment provider providerName
      { state with system := state.system.next hasher manager label } := by
  have hcalls := callsKept_next hasher manager state.system label
  constructor
  case runtime => exact hinv.runtime.next hdeploys label hfresh
  case held =>
    intro key hold hfind
    obtain ⟨call, hcall, hname, hkey, hheld⟩ := hinv.held key hold hfind
    obtain ⟨later, hlater, hkept⟩ := hcalls call hcall
    refine ⟨later, hlater, hkept.providerName.trans hname, by rw [hkept.request, hkey], ?_⟩
    unfold HeldBy
    rw [hkept.request]
    exact hheld
  case served =>
    intro entry hentry
    obtain ⟨call, hcall, hcommit, hname, htrue⟩ := hinv.served entry hentry
    obtain ⟨later, hlater, hkept⟩ := hcalls call hcall
    refine ⟨later, hlater, (commit_of_callKept hkept).trans hcommit,
      hkept.providerName.trans hname, ?_⟩
    rw [hkept.request]
    exact htrue
  case answered =>
    intro call hcall hname answer hanswer
    obtain ⟨old, hold, hcommit, hsame, hbefore | ⟨hscope, next, rfl, hworker⟩⟩ :=
      answer_of_next hcall hanswer
    · rw [← hcommit]
      exact hinv.answered old hold (hsame.trans hname) answer hbefore
    · -- The answer was given just now, so it is one that fits.
      have hhold : state.isHoldCall providerName call.commit = true := by
        refine List.any_eq_true.mpr ⟨old, hold, ?_⟩
        simp only [hcommit, hsame, hname, beq_self_eq_true, Bool.and_self]
      simp only [HoldSystem.fits, hworker] at hfits
      have hhold : state.isHoldCall providerName
          ⟨call.worker, call.request.runId, call.request.stepId, call.dispatch⟩ = true := hhold
      rw [hhold, Bool.not_true, Bool.false_or] at hfits
      exact hfits

/-- The transaction of a call. -/
theorem HoldInv.serves (hinv : HoldInv hasher manager deployment provider providerName state)
    {call : ProviderCall} (hcall : call ∈ state.system.world.calls)
    (hname : call.providerName = providerName) :
    HoldInv hasher manager deployment provider providerName
      { state with
        holds := (provider.execute state.holds call.request).2
        served := state.served ++
          [(call.commit, (provider.execute state.holds call.request).1)] } := by
  have haccounted : Accounted deployment state.system.world := hinv.runtime.accounted.1
  -- It suffices that no hold is lost, and that the new hold and the new answer are the call's own.
  have hsuffices (later : TripHolds) (answer : Except TripHoldFailure ProviderResult)
      (hexecute : provider.execute state.holds call.request = (answer, later))
      (hgrows : ∀ key hold, state.holds.find key = some hold → later.find key = some hold)
      (hnew : ∀ key hold, later.find key = some hold → state.holds.find key = some hold ∨
        key = call.request.idempotencyKey ∧ HeldBy provider call hold)
      (htrue : StillTrue provider later call.request answer) :
      HoldInv hasher manager deployment provider providerName
        { state with
          holds := (provider.execute state.holds call.request).2
          served := state.served ++
            [(call.commit, (provider.execute state.holds call.request).1)] } := by
    rw [hexecute]
    constructor
    case runtime => exact hinv.runtime
    case held =>
      intro key hold hfind
      rcases hnew key hold hfind with hbefore | ⟨rfl, hheld⟩
      · exact hinv.held key hold hbefore
      · exact ⟨call, hcall, hname, rfl, hheld⟩
    case served =>
      intro entry hentry
      rcases List.mem_append.mp hentry with hbefore | hlast
      · obtain ⟨other, hother, hcommit, hsame, hstill⟩ := hinv.served entry hbefore
        exact ⟨other, hother, hcommit, hsame, hstill.grows hgrows⟩
      · rw [List.mem_singleton.mp hlast]
        exact ⟨call, hcall, rfl, hname, htrue⟩
    case answered =>
      intro other hother hsame given hanswer
      exact answerFits_append (hinv.answered other hother hsame given hanswer)
  obtain ⟨failure, -, hdefinitive, hexecute⟩ |
    ⟨arguments, existing, hvalidate, hfind, hhash, hexecute⟩ |
    ⟨arguments, existing, result, hvalidate, hfind, hhash, hresult, hexecute⟩ |
    ⟨arguments, next, hvalidate, hinsert, hexecute⟩ :=
    provider.execute_cases state.holds call.request
  · refine hsuffices _ _ hexecute (fun _ _ hfind ↦ hfind) (fun _ _ hfind ↦ .inl hfind) ?_
    cases failure with
    | definitive message => exact ⟨_, hdefinitive message rfl⟩
    | runtimeError | integrityError => trivial
  · -- All calls under the key carry one request, so its hold is for the same arguments.
    obtain ⟨other, hother, -, hkey, shown, hshown, hheld⟩ := hinv.held _ existing hfind
    have hrequest := request_of_key haccounted hinv.runtime.keys hother hcall hkey
    rw [hrequest, hvalidate] at hshown
    obtain rfl := Except.ok.inj hshown
    rw [hheld] at hhash
    exact absurd rfl hhash
  · refine hsuffices _ _ hexecute (fun _ _ hfind ↦ hfind) (fun _ _ hfind ↦ .inl hfind) ?_
    exact ⟨existing, hfind, rfl⟩
  · have hinserted (key : String) := TripHolds.find_insert hinsert key
    refine hsuffices _ _ hexecute (fun key hold hfind ↦ ?_) (fun key hold hfind ↦ ?_) ?_
    · obtain ⟨hfree, hnext⟩ := hinserted key
      rw [hnext, if_neg, hfind]
      rintro rfl
      rw [hfree] at hfind
      cases hfind
    · rw [(hinserted key).2] at hfind
      by_cases hkey : key = call.request.idempotencyKey
      · rw [if_pos hkey] at hfind
        exact .inr ⟨hkey, arguments, hvalidate, (Option.some.inj hfind).symm⟩
      · rw [if_neg hkey] at hfind
        exact .inl hfind
    · refine ⟨provider.holdRow call.request.idempotencyKey arguments, ?_, rfl⟩
      rw [(hinserted _).2, if_pos rfl]

/-- Every event keeps the invariant. -/
theorem HoldInv.next (hinv : HoldInv hasher manager deployment provider providerName state)
    (hdeploys : manager.Deploys deployment) (label : HoldLabel)
    (hfresh : FreshHoldTokens state label) :
    HoldInv hasher manager deployment provider providerName
      (state.next hasher manager provider providerName label) := by
  cases label with
  | runtime label =>
    by_cases hfits : state.fits providerName label = true
    · simp only [HoldSystem.next, if_pos hfits]
      exact hinv.runs hdeploys label hfresh hfits
    · simp only [HoldSystem.next, if_neg hfits]
      exact hinv
  | transact index =>
    show HoldInv hasher manager deployment provider providerName
      (state.transact provider providerName index)
    unfold HoldSystem.transact
    split
    · exact hinv
    · next call hindex =>
      by_cases hname : call.providerName = providerName
      · rw [if_pos hname]
        have hserved := hinv.serves (List.mem_of_getElem? hindex) hname
        dsimp only
        split
        · -- A success also marks the call as applied.
          exact hserved.runs hdeploys (.applyEffect index) trivial rfl
        · exact hserved
      · rw [if_neg hname]
        exact hinv

theorem holdInv_run (hdeploys : manager.Deploys deployment) {labels : List HoldLabel}
    (hfresh : (holdMachine hasher manager provider providerName).Admits FreshHoldTokens .init
      labels) :
    HoldInv hasher manager deployment provider providerName
      ((holdMachine hasher manager provider providerName).run .init labels) :=
  (holdMachine hasher manager provider providerName).invariant_run
    (HoldInv hasher manager deployment provider providerName)
    (fun _ label hinv hlabel ↦ hinv.next hdeploys label hlabel) holdInv_init hfresh

/-! ### One hold for each action -/

/-- The hold that an action of the runtime stands for. -/
structure HoldOf (provider : SQLiteTripHoldProvider) (providerName : String)
    (row : ExternalActionRow) (hold : TripHoldRow) : Prop where
  providerName : row.providerName = providerName
  toolName : row.toolName = "create_trip_hold"
  dispatched : 1 ≤ row.dispatchCount
  arguments : ∃ fields arguments, row.argumentsJson = .obj fields ∧
    provider.inputModel fields = some arguments ∧
    hold = provider.holdRow row.idempotencyKey arguments

theorem externalActionRequest_toolName {action : ExternalActionRecord}
    {request : ExternalActionRequest} (hrequest : externalActionRequest action = .ok request) :
    request.toolName = action.toolName := by
  unfold externalActionRequest at hrequest
  split at hrequest
  · split_ifs at hrequest
    exact Except.ok.inj hrequest ▸ rfl
  · cases hrequest

/-- Valid arguments are what the input model makes of a request for a trip hold. -/
theorem SQLiteTripHoldProvider.validate_ok {request : ExternalActionRequest} {arguments : Payload}
    (hvalidate : provider.validate request = .ok arguments) :
    request.toolName = "create_trip_hold" ∧
      provider.inputModel request.arguments = some arguments := by
  unfold validate at hvalidate
  split_ifs at hvalidate with htool
  refine ⟨not_not.mp htool, ?_⟩
  split at hvalidate
  · cases hvalidate
  · next hmodel => rw [hmodel, Except.ok.inj hvalidate]

/-- The reference that the runtime reads off a provider's result. -/
theorem validateProviderResult_resultJson {result answer : ProviderResult}
    (hvalid : validateProviderResult (resultJson result) = some answer) : answer = result := by
  simp only [resultJson, validateProviderResult] at hvalid
  split at hvalid
  · next reference fields hlength hreference hresult =>
    split_ifs at hvalid
    have hreference : some (Json.str result.providerReference) = some (.str reference) := hreference
    have hresult : some (Json.obj result.result) = some (.obj fields) := hresult
    rw [← Option.some.inj hvalid, ← Json.str.inj (Option.some.inj hreference),
      ← Json.obj.inj (Option.some.inj hresult)]
  · cases hvalid

/-- A hold belongs to an action of the runtime. -/
theorem HoldInv.action (hinv : HoldInv hasher manager deployment provider providerName state)
    {key : String} {hold : TripHoldRow} (hfind : state.holds.find key = some hold) :
    ∃ place row, state.system.world.db.externalActions.find place = some row ∧
      row.idempotencyKey = key ∧ HoldOf provider providerName row hold := by
  have haccounted : Accounted deployment state.system.world := hinv.runtime.accounted.1
  obtain ⟨call, hcall, hname, rfl, arguments, hvalidate, rfl⟩ := hinv.held key hold hfind
  obtain ⟨row, hrow⟩ := haccounted.entered call hcall
  obtain ⟨counted, hcounted⟩ := haccounted.counted call.commit (haccounted.spent call hcall)
  obtain rfl : counted = row := Option.some.inj (hcounted.find.symm.trans hrow.find)
  obtain ⟨-, hkey, harguments⟩ := externalActionRequest_columns hrow.request
  obtain ⟨htool, hmodel⟩ := SQLiteTripHoldProvider.validate_ok hvalidate
  have hkey : call.request.idempotencyKey = counted.idempotencyKey := hkey
  refine ⟨call.action, counted, hrow.find, hkey.symm, ?_⟩
  constructor
  case providerName => exact hrow.providerName.symm.trans hname
  case toolName => exact (externalActionRequest_toolName hrow.request).symm.trans htool
  case dispatched => exact hcounted.pos.trans hcounted.le
  case arguments => exact ⟨call.request.arguments, arguments, harguments.symm, hmodel, by rw [hkey]⟩

/-- A request that the provider denied has no hold. -/
theorem HoldInv.denied (hinv : HoldInv hasher manager deployment provider providerName state)
    {call : ProviderCall} (hcall : call ∈ state.system.world.calls)
    (hname : call.providerName = providerName) (hdefinitive : call.isDefinitive = true) :
    state.holds.find call.request.idempotencyKey = none := by
  have haccounted : Accounted deployment state.system.world := hinv.runtime.accounted.1
  have hanswer : call.answer = some (.error .definitive) := by
    unfold ProviderCall.isDefinitive at hdefinitive
    split at hdefinitive
    · assumption
    · cases hdefinitive
  have hfits := hinv.answered call hcall hname _ hanswer
  simp only [answerFits, List.any_eq_true, Bool.and_eq_true, beq_iff_eq] at hfits
  obtain ⟨entry, hentry, hcommit, hraised⟩ := hfits
  obtain ⟨other, hother, hsame, -, htrue⟩ := hinv.served entry hentry
  obtain rfl := call_of_commit haccounted hother hcall (hsame.trans hcommit)
  split at hraised
  · next message hfailure =>
    rw [hfailure] at htrue
    obtain ⟨failure, hinvalid⟩ := htrue
    by_contra hsome
    obtain ⟨hold, hfind⟩ := Option.ne_none_iff_exists'.mp hsome
    obtain ⟨holder, hholder, -, hkey, arguments, hvalidate, -⟩ := hinv.held _ hold hfind
    rw [request_of_key haccounted hinv.runtime.keys hholder hother hkey, hinvalid] at hvalidate
    cases hvalidate
  · cases hraised

/-- A call that returned is the hold of its key. -/
theorem HoldInv.returned (hinv : HoldInv hasher manager deployment provider providerName state)
    {call : ProviderCall} (hcall : call ∈ state.system.world.calls)
    (hname : call.providerName = providerName) {raw : Json} {answer : ProviderResult}
    (hanswer : call.answer = some (.ok raw)) (hvalid : validateProviderResult raw = some answer) :
    ∃ hold, state.holds.find call.request.idempotencyKey = some hold ∧
      hold.providerReference = answer.providerReference := by
  have haccounted : Accounted deployment state.system.world := hinv.runtime.accounted.1
  have hfits := hinv.answered call hcall hname _ hanswer
  simp only [answerFits, List.any_eq_true, Bool.and_eq_true, beq_iff_eq] at hfits
  obtain ⟨entry, hentry, hcommit, hreturned⟩ := hfits
  obtain ⟨other, hother, hsame, -, htrue⟩ := hinv.served entry hentry
  obtain rfl := call_of_commit haccounted hother hcall (hsame.trans hcommit)
  split at hreturned
  · next result hresult =>
    rw [hresult] at htrue
    rw [← eq_of_beq hreturned] at hvalid
    rw [validateProviderResult_resultJson hvalid]
    exact htrue
  · cases hreturned

/-- Exactly one hold, end to end. The runtime and the provider keep their ledgers in two databases,
any number of workers crash, take over and retry, and transactions of the provider happen late,
repeatedly or not at all. After every run, each hold belongs to exactly one action of the runtime,
which was dispatched to this provider with the arguments that the hold was made for; a SUCCEEDED
action of the provider has its hold and carries its reference; and an action that is only PREPARED
or that is recorded as FAILED has none. Two holds never share a reference. -/
theorem one_hold_per_action (hdeploys : manager.Deploys deployment)
    {registered : ExternalActionProvider} (hroute : deployment.route providerName = some registered)
    (hidempotent : registered.supportsIdempotency = true) (labels : List HoldLabel)
    (hfresh : (holdMachine hasher manager provider providerName).Admits FreshHoldTokens .init
      labels) :
    let state := (holdMachine hasher manager provider providerName).run .init labels
    let actions := state.system.world.db.externalActions
    (∀ key hold, state.holds.find key = some hold → ∃! place, ∃ row,
      actions.find place = some row ∧ row.idempotencyKey = key ∧
        HoldOf provider providerName row hold) ∧
    (∀ place row, actions.find place = some row → row.providerName = providerName →
      row.status = .succeeded → ∃ hold, state.holds.find row.idempotencyKey = some hold ∧
        row.providerReference = some hold.providerReference) ∧
    (∀ place row, actions.find place = some row → row.status = .prepared ∨ row.status = .failed →
      state.holds.find row.idempotencyKey = none) ∧
    ∀ key other hold twin, state.holds.find key = some hold → state.holds.find other = some twin →
      hold.providerReference = twin.providerReference → key = other := by
  intro state actions
  have hinv : HoldInv hasher manager deployment provider providerName state :=
    holdInv_run hdeploys hfresh
  have haccounted : Accounted deployment state.system.world := hinv.runtime.accounted.1
  refine ⟨fun key hold hfind ↦ ?_, fun place row hrow hname hstatus ↦ ?_,
    fun place row hrow hstatus ↦ ?_, fun _ _ _ _ hfind htwin ↦
      state.holds.key_of_reference hfind htwin⟩
  · obtain ⟨place, row, hrow, hkey, hholdOf⟩ := hinv.action hfind
    refine ⟨place, ⟨row, hrow, hkey, hholdOf⟩, ?_⟩
    rintro other ⟨twin, htwin, hsame, -⟩
    exact hinv.runtime.keys other place twin row htwin hrow (hsame.trans hkey.symm)
  · obtain ⟨log, hlog⟩ := hinv.runtime.answers
    obtain ⟨worker, claim, dispatch, raw, result, reference, -, ⟨call, hcall, hcommit, hanswer⟩,
      ⟨_, _, _, _, _, answer, _, -, -, -, hvalid, -, hreference, -⟩, -, hcolumn⟩ :=
        hlog.rows place row hrow hstatus
    obtain ⟨found, hfound⟩ := haccounted.entered call hcall
    have hplace : call.action = place :=
      congrArg (fun commit : DispatchCommit ↦ (commit.runId, commit.stepId)) hcommit
    obtain rfl : found = row := by
      have hfind := hfound.find
      rw [hplace] at hfind
      exact Option.some.inj (hfind.symm.trans hrow)
    have hkey : call.request.idempotencyKey = found.idempotencyKey :=
      (externalActionRequest_columns hfound.request).2.1
    obtain ⟨hold, hfind, hsame⟩ :=
      hinv.returned hcall (hfound.providerName.trans hname) hanswer hvalid
    refine ⟨hold, hkey ▸ hfind, ?_⟩
    rw [hcolumn, hreference, hsame]
  · by_contra hsome
    obtain ⟨hold, hfind⟩ := Option.ne_none_iff_exists'.mp hsome
    obtain ⟨other, twin, htwin, hkey, hholdOf⟩ := hinv.action hfind
    obtain rfl := hinv.runtime.keys other place twin row htwin hrow hkey
    obtain rfl : twin = row := Option.some.inj (htwin.symm.trans hrow)
    have hrows := haccounted.rows other twin hrow
    rcases hstatus with hprepared | hfailed
    · have hzero := (hrows.prepared hprepared).count
      have hone := hholdOf.dispatched
      omega
    · rcases hrows.failed hfailed with ⟨call, hcall, hcallKey, hdefinitive⟩ | ⟨-, hunsupported⟩
      · have haction : call.action = other := congrArg Prod.fst hcallKey
        obtain ⟨found, hfound⟩ := haccounted.entered call hcall
        obtain rfl : found = twin := by
          have hfind := hfound.find
          rw [haction] at hfind
          exact Option.some.inj (hfind.symm.trans hrow)
        have hnone := hinv.denied hcall (hfound.providerName.trans hholdOf.providerName) hdefinitive
        rw [(externalActionRequest_columns hfound.request).2.1] at hnone
        exact hsome hnone
      · have hfalse := hunsupported registered (hholdOf.providerName ▸ hroute)
        rw [hidempotent] at hfalse
        cases hfalse

end Composition

/-! ### A retried hold -/

/-- The sample server with the tool of the provider. -/
def tripHoldLoop : DynamicToolLoop :=
  { sampleLoop with
    toolRegistry := fun name ↦
      if name = "create_trip_hold" then some { sampleTool with name := "create_trip_hold" }
      else none }

def tripHoldManager : RuntimeManager :=
  ⟨fun _ _ ↦ some { sampleRegistration with loop := tripHoldLoop }, fun failure ↦ failure.text⟩

def sampleTripHolds : SQLiteTripHoldProvider := ⟨some, fun _ ↦ "h", fun _ ↦ "h"⟩

/-- The planner's decision to hold a trip. -/
def tripHoldDecision : Json :=
  .obj [("decision_type", .str "CALL_TOOL"), ("tool_name", .str "create_trip_hold"),
    ("arguments", .obj [("nights", .int 1)]), ("reason", .str "requested")]

/-- Submission, claim and the first attempt up to its first call of the provider. -/
def firstHoldCall : List Label :=
  [.control (sampleReading 0 "s") (.run (.createRunWithEvent sampleWrite "run.queued" [])),
    .claim (sampleReading 1 "l") "w" 30, .work 0 (.flag false)] ++
  List.replicate 7 (storeStep 0 "a") ++ [.work 0 (.planner (.ok tripHoldDecision))] ++
  List.replicate 16 (storeStep 0 "a") ++ List.replicate 3 (storeStep 0 "b") ++ [.work 0 .noted]

/-- The first call makes the hold but its answer is lost; the retry gets the hold again, and the
action succeeds. -/
def retriedHold : List HoldLabel :=
  firstHoldCall.map .runtime ++
  [.transact 0, .runtime (.work 0 (.provider (.error .ambiguous))), .runtime (storeStep 0 "b")] ++
  List.replicate 3 (.runtime (storeStep 0 "c")) ++ [.runtime (.work 0 .noted), .transact 1,
    .runtime (.work 0 (.provider (.ok (resultJson ⟨"hold_h",
      [("nights", .int 1), ("provider_reference", .str "hold_h"), ("status", .str "held")]⟩))))] ++
  List.replicate 4 (.runtime (storeStep 0 "d"))

set_option maxRecDepth 10000 in
/-- Two calls of the provider made one hold, which the action refers to. -/
theorem retried_hold_is_one :
    let state := (holdMachine sampleHasher tripHoldManager sampleTripHolds "hold").run .init
      retriedHold
    state.system.world.calls.length = 2 ∧ state.holds.countHolds = 1 ∧
      ∃ row hold, state.system.world.db.externalActions.find ("run_1", "call-0001") = some row ∧
        state.holds.find row.idempotencyKey = some hold ∧
        row.providerReference = some hold.providerReference := by
  have hdeploys : tripHoldManager.Deploys sampleDeployment := by
    intro agentId agentVersion registration hregistration
    obtain rfl := Option.some.inj hregistration
    exact ⟨rfl, rfl⟩
  have hfresh : (holdMachine sampleHasher tripHoldManager sampleTripHolds "hold").Admits
      FreshHoldTokens .init retriedHold := by decide +kernel
  obtain ⟨-, hsucceeded, -⟩ := one_hold_per_action hdeploys
    (show sampleDeployment.route "hold" = some Execution.sampleProvider from rfl) rfl
    retriedHold hfresh
  have hend :
      let state := (holdMachine sampleHasher tripHoldManager sampleTripHolds "hold").run .init
        retriedHold
      state.system.world.calls.length = 2 ∧ state.holds.countHolds = 1 ∧
        (state.system.world.db.externalActions.find ("run_1", "call-0001")).map (fun row ↦
          (row.providerName, row.status)) = some ("hold", .succeeded) := by decide +kernel
  obtain ⟨hcalls, hholds, hrow⟩ := hend
  obtain ⟨row, hfind, hcolumns⟩ := Option.map_eq_some_iff.mp hrow
  obtain ⟨hname, hstatus⟩ := Prod.mk.inj hcolumns
  obtain ⟨hold, hhold, hreference⟩ := hsucceeded _ row hfind hname hstatus
  exact ⟨hcalls, hholds, row, hold, hfind, hhold, hreference⟩

end AgentRuntime.Providers
