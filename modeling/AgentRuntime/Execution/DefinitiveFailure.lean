import AgentRuntime.Execution.BoundedDispatch

/-!
# When a definitive failure is true

An action is recorded as FAILED when the provider answers its current dispatch with a definitive
failure. That answer speaks for one call only. `false_definitive_failure` is a history in which an
earlier, ambiguous call of the same action applied its effect. `definitive_failures_are_true` says
under which condition the record is right: a call is answered definitively only when every other
call of its action was. A definitive answer may be lost in a crash, and the action dispatched again.
-/

set_option autoImplicit false
set_option relaxedAutoImplicit false

namespace AgentRuntime.Execution

open Library Store

/-- A provider answers a call definitively only if it answered every other call of the action so,
and no provider is entered with a dispatch that is older than one answered definitively. -/
def agreedResponse (calls : List ProviderCall) : Op → Response → Bool
  | .awaitProvider runId stepId dispatch, .provider (.error .definitive) =>
    calls.all fun call ↦ decide (call.action = (runId, stepId) →
      call.key = ((runId, stepId), dispatch) ∨ call.isDefinitive = true)
  | .enterProvider _ dispatch request, .noted =>
    calls.all fun call ↦ decide (call.action = (request.runId, request.stepId) →
      call.isDefinitive = true → call.dispatch < dispatch)
  | _, _ => true

/-- The definitive answers of this event agree with the answers so far. -/
def agreedDefinitive (system : System) : Label → Bool
  | .work worker response =>
    match system.workers worker with
    | some (.call op _ _) => agreedResponse system.world.calls op response
    | _ => true
  | _ => true

/-- Up to a definitively answered call, all calls of its action were answered so. -/
def Agreed (calls : List ProviderCall) : Prop :=
  ∀ call ∈ calls, ∀ other ∈ calls, call.isDefinitive = true → other.action = call.action →
    other.dispatch ≤ call.dispatch → other.isDefinitive = true

/-! ### What an operation does to the calls -/

theorem record_calls (world : World) (worker : Nat) (call : Call) (reply : call.Reply)
    (after : Database) : (world.record worker call reply after).calls = world.calls := by
  unfold World.record
  split <;> rfl

/-- Only the two provider operations change the calls. -/
theorem calls_of_perform {hasher : Hasher} {world after : World} {worker : Nat} {op : Op}
    {response : Response} {answer : Except Failure op.Answer}
    (hperform : world.perform hasher worker op response = some (answer, after)) :
    after.calls = world.calls ∨
      (∃ providerName dispatch request, op = .enterProvider providerName dispatch request ∧
        response = .noted ∧
        after.calls = world.calls ++ [world.entry worker providerName dispatch request]) ∨
      ∃ runId stepId dispatch given, op = .awaitProvider runId stepId dispatch ∧
        response = .provider given ∧
        after.calls = answeredCalls world.calls worker runId stepId dispatch given := by
  cases op with
  | store call =>
    obtain ⟨reading, fault, -, ⟨rfl, -⟩ | ⟨reply, db, -, rfl, -⟩⟩ := committed_of_perform hperform
    · exact .inl rfl
    · exact .inl (record_calls world worker call reply db)
  | enterProvider providerName dispatch request =>
    cases response <;> cases hperform
    exact .inr (.inl ⟨_, _, _, rfl, rfl, rfl⟩)
  | awaitProvider runId stepId dispatch =>
    cases response with
    | provider given =>
      simp only [World.perform] at hperform
      split_ifs at hperform
      obtain ⟨-, rfl⟩ := Prod.mk.inj (Option.some.inj hperform)
      exact .inr (.inr ⟨_, _, _, _, rfl, rfl, rfl⟩)
    | _ => cases hperform
  | decide | executeTool | evaluateFinish | leaseLost | runtimeEnded =>
    cases response <;> cases hperform
    exact .inl rfl
  | unfollowed => cases response <;> cases hperform

theorem agreed_append {calls : List ProviderCall} {entry : ProviderCall} (hagreed : Agreed calls)
    (hentry : entry.isDefinitive = false)
    (hlater : ∀ call ∈ calls, call.action = entry.action → call.isDefinitive = true →
      call.dispatch < entry.dispatch) :
    Agreed (calls ++ [entry]) := by
  intro call hcall other hother hdefinitive haction hle
  obtain hcall | hcall := List.mem_append.mp hcall
  · obtain hother | hother := List.mem_append.mp hother
    · exact hagreed call hcall other hother hdefinitive haction hle
    · rw [List.mem_singleton.mp hother] at haction hle
      exact absurd hle (hlater call hcall haction.symm hdefinitive).not_ge
  · obtain rfl := List.mem_singleton.mp hcall
    rw [hentry] at hdefinitive
    cases hdefinitive

/-- An answered call was answered before, or now with the given answer. -/
theorem isDefinitive_answered {call : ProviderCall} {worker dispatch : Nat}
    {runId stepId : String} {given : Except Failure Json}
    (hdefinitive : (if call.isOpen worker runId stepId dispatch then
      { call with answer := some given } else call).isDefinitive = true) :
    call.isDefinitive = true ∨
      call.key = ((runId, stepId), dispatch) ∧ given = .error .definitive := by
  split_ifs at hdefinitive with hopen
  · have hcommit := (isOpen_iff.mp hopen).1
    refine .inr ⟨congrArg DispatchCommit.key hcommit, ?_⟩
    unfold ProviderCall.isDefinitive at hdefinitive
    split at hdefinitive
    · next heq => exact Option.some.inj heq
    · cases hdefinitive
  · exact .inl hdefinitive

theorem key_answered (call : ProviderCall) (worker : Nat) (runId stepId : String) (dispatch : Nat)
    (given : Except Failure Json) :
    (if call.isOpen worker runId stepId dispatch then { call with answer := some given }
      else call).key = call.key := by
  split_ifs <;> rfl

theorem action_answered (call : ProviderCall) (worker : Nat) (runId stepId : String)
    (dispatch : Nat) (given : Except Failure Json) :
    (if call.isOpen worker runId stepId dispatch then { call with answer := some given }
      else call).action = call.action :=
  congrArg Prod.fst (key_answered call worker runId stepId dispatch given)

/-- A call that was answered definitively stays so. -/
theorem isDefinitive_kept {call : ProviderCall} {worker dispatch : Nat} {runId stepId : String}
    {given : Except Failure Json} (hdefinitive : call.isDefinitive = true) :
    (if call.isOpen worker runId stepId dispatch then { call with answer := some given }
      else call).isDefinitive = true := by
  have hclosed : ¬ call.isOpen worker runId stepId dispatch = true := fun hopen ↦ by
    simp [ProviderCall.isDefinitive, (isOpen_iff.mp hopen).2] at hdefinitive
  rw [if_neg hclosed]
  exact hdefinitive

theorem agreed_answered {calls : List ProviderCall} {worker dispatch : Nat} {runId stepId : String}
    {given : Except Failure Json} (hagreed : Agreed calls)
    (hnodup : (calls.map ProviderCall.key).Nodup)
    (hothers : given = .error .definitive → ∀ call ∈ calls, call.action = (runId, stepId) →
      call.key = ((runId, stepId), dispatch) ∨ call.isDefinitive = true) :
    Agreed (answeredCalls calls worker runId stepId dispatch given) := by
  intro next hnext other hother hdefinitive haction hle
  obtain ⟨call, hcall, rfl⟩ := List.mem_map.mp hnext
  obtain ⟨old, hold, rfl⟩ := List.mem_map.mp hother
  rw [action_answered, action_answered] at haction
  have hkeys : old.dispatch ≤ call.dispatch := by
    have hsecond (given' : ProviderCall) : (if given'.isOpen worker runId stepId dispatch then
        { given' with answer := some given } else given').dispatch = given'.dispatch :=
      congrArg Prod.snd (key_answered given' worker runId stepId dispatch given)
    rwa [hsecond, hsecond] at hle
  obtain hbefore | ⟨hkey, hgiven⟩ := isDefinitive_answered hdefinitive
  · exact isDefinitive_kept (hagreed call hcall old hold hbefore haction hkeys)
  · have hcallAction : call.action = (runId, stepId) := congrArg Prod.fst hkey
    rcases hothers hgiven old hold (haction.trans hcallAction) with hsame | hanswered
    · -- the answered call itself
      rw [List.inj_on_of_nodup_map hnodup hold hcall (hsame.trans hkey.symm)]
      exact hdefinitive
    · exact isDefinitive_kept hanswered

theorem isDefinitive_applyEffect {world : World} {index : Nat} {next : ProviderCall}
    (hnext : next ∈ (world.applyEffect index).calls) :
    ∃ call ∈ world.calls, next.key = call.key ∧ next.isDefinitive = call.isDefinitive := by
  obtain ⟨position, hposition, rfl⟩ := List.getElem_of_mem hnext
  have hbound : position < world.calls.length := by simpa [World.applyEffect] using hposition
  refine ⟨world.calls[position], List.getElem_mem hbound, ?_⟩
  simp only [World.applyEffect, List.getElem_modify]
  split_ifs
  · exact ⟨rfl, rfl⟩
  · exact ⟨rfl, rfl⟩
  · exact ⟨rfl, rfl⟩

/-! ### Runs -/

variable {hasher : Hasher} {manager : RuntimeManager} {deployment : Deployment}

theorem agreed_work {system : System} {worker : Nat} {response : Response}
    (hagreed : Agreed system.world.calls)
    (hnodup : (system.world.calls.map ProviderCall.key).Nodup)
    (hguard : agreedDefinitive system (.work worker response) = true) :
    Agreed (system.work hasher worker response).world.calls := by
  unfold System.work
  split
  · next op hscope next hworker =>
    split
    · next answer world hperform =>
      have hguard : agreedResponse system.world.calls op response = true := by
        simpa only [agreedDefinitive, hworker] using hguard
      obtain hsame | ⟨providerName, dispatch, request, rfl, rfl, hcalls⟩ |
        ⟨runId, stepId, dispatch, given, rfl, rfl, hcalls⟩ := calls_of_perform hperform
      · exact hsame ▸ hagreed
      · refine hcalls ▸ agreed_append hagreed rfl fun call hcall ↦ ?_
        exact of_decide_eq_true (List.all_eq_true.mp hguard call hcall)
      · refine hcalls ▸ agreed_answered hagreed hnodup fun hgiven call hcall ↦ ?_
        subst hgiven
        exact of_decide_eq_true (List.all_eq_true.mp hguard call hcall)
    · exact hagreed
  · exact hagreed

theorem agreed_next (system : System) (label : Label) (hagreed : Agreed system.world.calls)
    (hnodup : (system.world.calls.map ProviderCall.key).Nodup)
    (hguard : agreedDefinitive system label = true) :
    Agreed ((systemMachine hasher manager).next system label).world.calls := by
  cases label with
  | work worker response => exact agreed_work hagreed hnodup hguard
  | crash worker => exact hagreed
  | claim reading ownerId duration =>
    show Agreed (system.claim manager reading ownerId duration).world.calls
    unfold System.claim
    split
    · exact hagreed
    · exact hagreed
    · exact hagreed
  | control reading call =>
    show Agreed (if isControlCall call then
      system.withDatabase (Request.apply hasher system.world.db ⟨reading, call⟩)
      else system).world.calls
    split_ifs
    · exact hagreed
    · exact hagreed
  | applyEffect index =>
    intro next hnext other hother hdefinitive haction hle
    obtain ⟨call, hcall, hkey, hsame⟩ := isDefinitive_applyEffect hnext
    obtain ⟨old, hold, holdKey, holdSame⟩ := isDefinitive_applyEffect hother
    have hactions : old.action = call.action :=
      (congrArg Prod.fst holdKey).symm.trans (haction.trans (congrArg Prod.fst hkey))
    have hdispatch : next.dispatch = call.dispatch := congrArg Prod.snd hkey
    have holdDispatch : other.dispatch = old.dispatch := congrArg Prod.snd holdKey
    rw [hdispatch, holdDispatch] at hle
    rw [holdSame]
    exact hagreed call hcall old hold (hsame ▸ hdefinitive) hactions hle

/-- In every history in which a call is answered definitively only when every other call of its
action was, and no stale call is entered after that, a row that is FAILED with
`external_action_failed` had no call that applied the effect, and none that was answered
otherwise. -/
theorem definitive_failures_are_true (hdeploys : manager.Deploys deployment) (labels : List Label)
    (hadmits : (systemMachine hasher manager).Admits
      (fun system label ↦ FreshTokens system label ∧ agreedDefinitive system label = true)
      System.init labels) :
    let world := ((systemMachine hasher manager).run System.init labels).world
    ∀ key row, world.db.externalActions.find key = some row → row.status = .failed →
      row.errorCode = some "external_action_failed" → ∀ call ∈ world.calls, call.action = key →
        call.applied = false ∧ call.isDefinitive = true := by
  intro world key row hfind hfailed _ call hcall hkey
  have hkept := (systemMachine hasher manager).invariant_run
    (fun system ↦ SystemAccounted hasher deployment system ∧ Agreed system.world.calls)
    (fun system label hsystem hguard ↦
      ⟨(systemAccounted_next hdeploys system label hsystem.1 hguard.1).1,
        agreed_next system label hsystem.2 hsystem.1.1.calls_nodup hguard.2⟩)
    ⟨systemAccounted_init, fun _ hmem ↦ by cases hmem⟩ hadmits
  have haccounted : Accounted deployment world := hkept.1.1
  have hagreed : Agreed world.calls := hkept.2
  have hdefinitive : call.isDefinitive = true := by
    obtain ⟨denied, hdenied, hdeniedKey, hdefinitive⟩ | hunsupported :=
      (haccounted.rows key row hfind).failed hfailed
    · have hle : call.dispatch ≤ row.dispatchCount :=
        haccounted.dispatch_le hfind (haccounted.spent call hcall) hkey
      have hdispatch : denied.dispatch = row.dispatchCount := congrArg Prod.snd hdeniedKey
      have haction : denied.action = key := congrArg Prod.fst hdeniedKey
      exact hagreed denied hdenied call hcall hdefinitive (hkey.trans haction.symm)
        (hdispatch ▸ hle)
    · obtain ⟨entered, hentered⟩ := haccounted.entered call hcall
      have hfound : world.db.externalActions.find key = some entered := hkey ▸ hentered.find
      obtain rfl := Option.some.inj (hfound.symm.trans hfind)
      exact (hentered.supported hunsupported).elim
  exact ⟨haccounted.denied call hcall hdefinitive, hdefinitive⟩

/-- The provider denies the only call of the action. -/
def sampleDenial : List Label :=
  sampleDispatch ++ List.replicate 3 (storeStep 0 "b") ++
    [.work 0 .noted, .work 0 (.provider (.error .definitive)), storeStep 0 "b"]

/-- The ambiguous call of `sampleRetry` applied its effect before the second call is denied. -/
def sampleFalseDenial : List Label :=
  sampleRetry ++ [.work 0 (.provider (.error .definitive)), storeStep 0 "c"]

set_option maxRecDepth 10000 in
theorem denied_action_is_failed :
    ((((systemMachine sampleHasher sampleManager).run System.init
        sampleDenial).world.db.externalActions.find ("run_1", "call-0001")).map
          fun row ↦ (row.status, row.errorCode)) =
        some (.failed, some "external_action_failed") ∧
      ∀ call ∈ ((systemMachine sampleHasher sampleManager).run System.init
        sampleDenial).world.calls, call.action = ("run_1", "call-0001") →
          call.applied = false := by
  have hadmits : (systemMachine sampleHasher sampleManager).Admits
      (fun system label ↦ FreshTokens system label ∧ agreedDefinitive system label = true)
      System.init sampleDenial := by decide +kernel
  have hrow : ((((systemMachine sampleHasher sampleManager).run System.init
      sampleDenial).world.db.externalActions.find ("run_1", "call-0001")).map
        fun row ↦ (row.status, row.errorCode)) =
      some (.failed, some "external_action_failed") := by decide +kernel
  obtain ⟨row, hfind, hcolumns⟩ := Option.map_eq_some_iff.mp hrow
  obtain ⟨hstatus, hcode⟩ := Prod.mk.inj hcolumns
  refine ⟨hrow, fun call hcall hkey ↦ ?_⟩
  exact (definitive_failures_are_true sampleManager_deploys sampleDenial hadmits _ row hfind
    hstatus hcode call hcall hkey).1

set_option maxRecDepth 10000 in
/-- The action is FAILED although its first, ambiguous call applied the effect. -/
theorem false_definitive_failure :
    (systemMachine sampleHasher sampleManager).Admits FreshTokens System.init sampleFalseDenial ∧
      ((((systemMachine sampleHasher sampleManager).run System.init
        sampleFalseDenial).world.db.externalActions.find ("run_1", "call-0001")).map
          fun row ↦ (row.status, row.errorCode)) =
        some (.failed, some "external_action_failed") ∧
      (((systemMachine sampleHasher sampleManager).run System.init
        sampleFalseDenial).world.calls.map fun call ↦ (call.action, call.applied)) =
        [(("run_1", "call-0001"), true), (("run_1", "call-0001"), false)] := by
  decide +kernel

end AgentRuntime.Execution
