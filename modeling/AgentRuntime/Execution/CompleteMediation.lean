import AgentRuntime.Execution.AttemptSystem

/-!
# Every tool is entered for a mediated call

The planner is arbitrary, and so are the crashes and recoveries. Still a tool or a provider is only
entered for a call that the planner's recorded decision asks for, that the attempt's authority
allows and that the log shows as allowed: an attempt executes a call after it was authorized and
after a call to the store passed the fence, and a fence that was passed tells that what the attempt
knew by then was current (`Current.passed`). The budget follows from the ledger, whose steps are
numbered from one to the limit, and from the limit that `_authorize_call` enforces on the rounds of
the loop.
-/

set_option autoImplicit false
set_option relaxedAutoImplicit false

namespace AgentRuntime.Execution

open Library Store

/-! ### Mediated calls -/

/-- The call is of a registered tool with the normalized arguments of the recorded decision, the
authority of the attempt allows it, the Run requested it if it writes, and the log shows that it
was allowed. -/
structure Mediated (manager : RuntimeManager) (claim : RunLeaseClaim) (db : Database)
    (call : ToolCall) : Prop where
  serves : Serves manager claim call.loop
  input : LoopInput manager claim call.input
  registered : call.loop.toolRegistry call.decision.toolName = some call.spec
  decided : DecisionRecorded db claim.run.runId call.index (.callTool call.decision)
  normalized : call.spec.inputModel call.decision.arguments = some call.normalized
  authority : ∃ authority, executionAuthority claim.run = .ok authority ∧
    allows authority "tools:execute" = true ∧
    (call.isExternal = true → allows authority "external-actions:execute" = true)
  requested : call.isExternal = true → call.Requested
  allowed : StepAllowed db claim.run.runId call.stepId

/-- An entry of a tool or a provider is for a mediated call and hands over its arguments. -/
def EntryMediated (manager : RuntimeManager) (claim : RunLeaseClaim) (db : Database) : Op → Prop
  | .executeTool toolName arguments => ∃ call, Mediated manager claim db call ∧
      call.isExternal = false ∧ toolName = call.decision.toolName ∧ arguments = call.normalized
  | .enterProvider providerName _ request => ∃ call, Mediated manager claim db call ∧
      call.isExternal = true ∧ call.spec.providerName = some providerName ∧
      request.runId = claim.run.runId ∧ request.stepId = call.stepId ∧
      request.toolName = call.decision.toolName ∧
      Json.obj request.arguments = canonicalJson call.normalized
  | _ => True

section Mediation

variable {manager : RuntimeManager} {claim : RunLeaseClaim} {claims : List RunLeaseClaim}
  {before history : History} {db : Database} {call : ToolCall}

theorem Attested.earlier {runId : String} (hattested : Attested runId history db)
    (hearlier : before <+: history) : Attested runId before db :=
  fun deed hmem ↦ hattested deed (hearlier.subset hmem)

theorem Authorized.mediated (hauthorized : Authorized manager claim before call)
    (hclaim : claim ∈ claims) (hattested : Attested claim.run.runId before db)
    (hsound : Sound manager claims db) (huncontested : Uncontested claim.run.runId before) :
    Mediated manager claim db call :=
  have hstands := hauthorized.stands hclaim hattested hsound huncontested
  { serves := hauthorized.serves
    input := hauthorized.input
    registered := hauthorized.registered
    decided := hstands.decided
    normalized := hauthorized.normalized
    authority := hauthorized.authority
    requested := hauthorized.requested
    allowed := hstands.allowed }

/-- A call that was authorized before a deed that passed the fence is mediated. -/
theorem Conducted.mediated (hconducted : Conducted manager claim history db)
    (hclaim : claim ∈ claims) (hsound : Sound manager claims db) {deed : Deed}
    (hdeed : before ++ [deed] <+: history) (hpassed : deed.PassedWith claim)
    (hauthorized : Authorized manager claim before call) : Mediated manager claim db call :=
  hauthorized.mediated hclaim
    (hconducted.attested.earlier ((List.prefix_append _ _).trans hdeed)) hsound
    (hconducted.current.passed before deed hdeed hpassed)

theorem Dispatches.shows {runId stepId : String} {row : ExternalActionRow} {deed : Deed}
    (hdispatches : Dispatches runId stepId row deed) : ShowsAction runId stepId row deed := by
  cases hdispatches with
  | begun attempt token reply hrow => exact .begun attempt token reply hrow
  | retried previous attempt token reply hrow => exact .retried previous attempt token reply hrow

/-- A dispatch of an attempt passed the fence with its lease. -/
theorem Dispatches.passedWith {stepId : String} {row : ExternalActionRow} {deed : Deed}
    (hdispatches : Dispatches claim.run.runId stepId row deed)
    (hmay : MayPerform manager claim before deed.op) : deed.PassedWith claim := by
  cases hdispatches with
  | begun attempt token reply =>
    obtain ⟨-, rfl⟩ := hmay
    exact ⟨_, _, rfl, rfl⟩
  | retried previous attempt token reply =>
    obtain ⟨-, rfl⟩ := hmay
    exact ⟨_, _, rfl, rfl⟩

/-- The row that an attempt was shown is a row of the stored action. -/
theorem Conducted.stored (hconducted : Conducted manager claim history db) {stepId : String}
    {row : ExternalActionRow} {deed : Deed} (hdeed : deed ∈ history)
    (hshows : ShowsAction claim.run.runId stepId row deed) :
    ∃ now, db.externalActions.find (claim.run.runId, stepId) = some now ∧
      externalActionIdentity now = externalActionIdentity row := by
  obtain ⟨now, hfind, hsame, -⟩ := (hconducted.attested deed hdeed).action stepId row hshows
  exact ⟨now, hfind, hsame.identity⟩

/-- The stored action of a standing call names the tool of the call. -/
theorem Sound.toolName_eq (hsound : Sound manager claims db) {runId : String}
    {action : ExternalActionRow} (hdecided : DecisionRecorded db runId call.index
      (.callTool call.decision))
    (hfind : db.externalActions.find (runId, call.stepId) = some action) :
    action.toolName = call.decision.toolName := by
  obtain ⟨step, hstep, hrow⟩ := hsound.evidence.rows _ _ hfind
  obtain ⟨other, hother, hotherStep, hname⟩ := hsound.steps runId call.stepId step hstep
  have hindex : call.index = other.index := callStepId_injective hotherStep
  have hotherDecided := hother.decided
  rw [← hindex] at hotherDecided
  have hdecision := PlannerDecision.callTool.inj (hdecided.unique hotherDecided)
  rw [← hrow.tool.1, hname, hdecision]

/-- The request that an attempt makes of an action. -/
theorem request_of_row {runId stepId : String} {row : ExternalActionRow}
    {request : ExternalActionRequest}
    (hrequest : externalActionRequest (.of runId stepId row) = .ok request) :
    request.runId = runId ∧ request.stepId = stepId ∧ request.toolName = row.toolName ∧
      Json.obj request.arguments = row.argumentsJson := by
  unfold externalActionRequest at hrequest
  split at hrequest
  · next arguments harguments =>
    split_ifs at hrequest
    obtain rfl := Except.ok.inj hrequest
    exact ⟨rfl, rfl, rfl, harguments.symm⟩
  · cases hrequest

/-- What an attempt is about to enter is mediated. -/
theorem Conducted.entryMediated (hconducted : Conducted manager claim history db)
    (hclaim : claim ∈ claims) (hsound : Sound manager claims db) {op : Op}
    (hmay : MayPerform manager claim history op) : EntryMediated manager claim db op := by
  cases op with
  | executeTool toolName arguments =>
    obtain ⟨call, hinternal, hname, harguments, hholds⟩ := hmay
    obtain ⟨before, maxAttempts, token, reply, hdeed, hauthorized⟩ := hholds
    have hclaimed := hconducted.lawful before _ hdeed
    have htoken : token = some claim.leaseToken := hclaimed.2.1
    subst htoken
    exact ⟨call, hconducted.mediated hclaim hsound hdeed ⟨_, reply, rfl, rfl⟩ hauthorized,
      hinternal, hname, harguments⟩
  | enterProvider providerName dispatch request =>
    obtain ⟨call, hexternal, hprovider, hholds, hvalidated⟩ := hmay
    obtain ⟨before, deed, row, hdeed, hauthorized, hdispatches, hrequest⟩ := hholds
    have hpassed := hdispatches.passedWith (hconducted.lawful before deed hdeed)
    have hmediated := hconducted.mediated hclaim hsound hdeed hpassed hauthorized
    obtain ⟨hrun, hstep, htool, harguments⟩ := request_of_row hrequest
    -- The dispatched row and the validated one are rows of one stored action.
    have hmem : deed ∈ history :=
      hdeed.subset (List.mem_append_right _ (List.mem_singleton_self deed))
    obtain ⟨now, hfind, hidentity⟩ := hconducted.stored hmem hdispatches.shows
    obtain ⟨other, hother, shown, hshows, hcanonical⟩ := hvalidated
    obtain ⟨twin, htwin, hsame⟩ := hconducted.stored hother hshows
    obtain rfl : now = twin := Option.some.inj (hfind.symm.trans htwin)
    have hrows : row.argumentsJson = shown.argumentsJson :=
      congrArg ExternalActionIdentity.argumentsJson (hidentity.symm.trans hsame)
    have hname : now.toolName = row.toolName :=
      congrArg ExternalActionIdentity.toolName hidentity
    refine ⟨call, hmediated, hexternal, hprovider, hrun, hstep, ?_, ?_⟩
    · rw [htool, ← hname]
      exact hsound.toolName_eq hmediated.decided hfind
    · rw [harguments, hrows, hcanonical]
  | _ => trivial

end Mediation

/-! ### The budget -/

/-- A history in which the planner is consulted after at most `limit` consultations holds at most
one more. -/
theorem consultations_le {history : History} {limit : Nat}
    (hlimit : ∀ before deed, before ++ [deed] <+: history → deed.isConsultation = true →
      consultations before ≤ limit) : consultations history ≤ limit + 1 := by
  induction history using List.reverseRecOn with
  | nil => exact Nat.zero_le _
  | append_singleton before deed ih =>
    rw [consultations_append]
    by_cases hdeed : deed.isConsultation = true
    · have hbefore := hlimit before deed (List.prefix_refl _) hdeed
      rw [if_pos hdeed]
      omega
    · rw [if_neg hdeed]
      exact ih fun earlier last hfront ↦ hlimit earlier last (hfront.trans (List.prefix_append _ _))

theorem Conducted.consultations_le {manager : RuntimeManager} {claim : RunLeaseClaim}
    {history : History} {db : Database} {loop : DynamicToolLoop}
    (hconducted : Conducted manager claim history db) (hserves : Serves manager claim loop) :
    consultations history ≤ loop.maxToolCalls + 1 := by
  refine Execution.consultations_le fun before deed hfront hconsultation ↦ ?_
  have hmay := hconducted.lawful before deed hfront
  obtain ⟨op, answer⟩ := deed
  cases op with
  | decide context =>
    obtain ⟨other, ⟨registration, hregistration, hloop⟩, hcount⟩ := hmay
    obtain ⟨twin, htwin, htwinLoop⟩ := hserves
    obtain rfl := Except.ok.inj (hregistration.symm.trans htwin)
    rwa [← htwinLoop, hloop]
  | _ => cases hconsultation

/-- The steps of a Run are numbered up to the limit of its loop. -/
theorem Sound.steps_le {manager : RuntimeManager} {claims : List RunLeaseClaim} {db : Database}
    {claim : RunLeaseClaim} {loop : DynamicToolLoop} (hsound : Sound manager claims db)
    (hone : OneRuntime manager claims) (hclaim : claim ∈ claims)
    (hserves : Serves manager claim loop) :
    (listSteps db claim.run.runId).length ≤ loop.maxToolCalls := by
  have hsubset : (listSteps db claim.run.runId).map Prod.fst ⊆
      (List.range' 1 loop.maxToolCalls).map callStepId := by
    intro stepId hmem
    obtain ⟨⟨step, row⟩, hentry, rfl⟩ := List.mem_map.mp hmem
    have hfind := (mem_listSteps db claim.run.runId step row).mp hentry
    obtain ⟨tool, hstands, rfl, -⟩ := hsound.steps _ _ row hfind
    have hlimit := hstands.limit
    rw [← hstands.serves_eq hclaim hserves hone] at hlimit
    exact List.mem_map.mpr ⟨tool.index, List.mem_range'_1.mpr ⟨hlimit.1, by omega⟩, rfl⟩
  have hlength := (List.subperm_of_subset (nodup_listSteps db _) hsubset).length_le
  rwa [List.length_map, List.length_map, List.length_range'] at hlength

/-! ### The rounds of the loop -/

namespace DynamicToolLoop

variable (loop : DynamicToolLoop) {context : RuntimeExecutionContext} {runtimeInput : Payload}

theorem neverReturns_fail {α : Type} (code detail : String) :
    (loop.fail context code detail : Plain α).NeverReturns := by
  unfold DynamicToolLoop.fail ExternalActionCoordinator.fail
  exact Program.neverReturns_bind fun value ↦ value.elim

/-- `_authorize_call` refuses calls beyond the limit. -/
theorem count_lt_of_authorizeCall {decision : CallToolDecision} {stepId : String} {count : Nat}
    {normalized : Payload}
    (hreturns : (loop.authorizeCall context runtimeInput decision stepId count).Returns
      normalized) : count < loop.maxToolCalls := by
  by_contra hlimit
  unfold DynamicToolLoop.authorizeCall at hreturns
  simp only [Program.bind_eq_bind] at hreturns
  obtain ⟨dispatched, -, hreturns⟩ := Program.returns_bind hreturns
  rw [if_pos (Nat.le_of_not_lt hlimit)] at hreturns
  obtain ⟨_, -, hreturns⟩ := Program.returns_bind hreturns
  exact loop.neverReturns_fail _ _ _ hreturns

/-- One round is as many rounds as follow it, and none follows the last call. -/
theorem iterate_succ_congr (state : Payload) {rounds other : Nat}
    {observations : List ToolObservation}
    (hsame : observations.length < loop.maxToolCalls → ∀ observation,
      loop.iterate context runtimeInput state rounds (observations ++ [observation]) =
        loop.iterate context runtimeInput state other (observations ++ [observation])) :
    loop.iterate context runtimeInput state (rounds + 1) observations =
      loop.iterate context runtimeInput state (other + 1) observations := by
  unfold DynamicToolLoop.iterate
  simp only [Program.bind_eq_bind]
  refine Program.bind_congr_returns fun decision _ ↦ ?_
  cases decision with
  | requestClarification decision => rfl
  | finish decision => rfl
  | callTool decision =>
    refine Program.bind_congr_returns fun normalized hreturns ↦ ?_
    have hroom := loop.count_lt_of_authorizeCall (Program.returns_widen hreturns)
    refine Program.bind_congr_returns fun observation _ ↦ ?_
    exact hsame hroom observation

/-- The loop ends within as many rounds as there are calls left, and one. -/
theorem iterate_add (state : Payload) (rounds more : Nat) (observations : List ToolObservation)
    (hrounds : loop.maxToolCalls ≤ observations.length + rounds) :
    loop.iterate context runtimeInput state (rounds + more + 1) observations =
      loop.iterate context runtimeInput state (rounds + 1) observations := by
  induction rounds generalizing observations with
  | zero => exact loop.iterate_succ_congr state fun hroom ↦ by omega
  | succ rounds ih =>
    rw [Nat.add_right_comm rounds 1 more]
    refine loop.iterate_succ_congr state fun _ observation ↦ ih _ ?_
    rw [List.length_append, List.length_singleton]
    omega

end DynamicToolLoop

/-! ### Complete mediation -/

/-- The worker is about to enter a provider. -/
def entersProvider : Option (Manager Unit) → Bool
  | some (.call (.enterProvider ..) _ _) => true
  | _ => false

theorem entersProvider_iff (worker : Option (Manager Unit)) : entersProvider worker = true ↔
    ∃ providerName dispatch request hscope next,
      worker = some (.call (.enterProvider providerName dispatch request) hscope next) := by
  constructor
  · intro henters
    unfold entersProvider at henters
    split at henters
    · exact ⟨_, _, _, _, _, rfl⟩
    · cases henters
  · rintro ⟨_, _, _, _, _, rfl⟩
    rfl

/-- Complete mediation and budget. Whatever the planner answers, and however attempts crash and are
recovered: a worker that is about to enter a tool or a provider does so for a mediated call, with
its arguments; a Run never has more steps than its loop allows calls; an attempt consults the
planner at most once more than that; and the loop ends within so many rounds, however long it is
followed. -/
theorem tools_are_mediated (hasher : Hasher) (manager : RuntimeManager) (labels : List Label)
    (hfresh : (systemMachine hasher manager).Admits FreshLeases System.init labels) :
    let system := (systemMachine hasher manager).run System.init labels
    let log := (systemMachine hasher manager).log (deeds hasher) System.init labels
    (∀ worker op hscope next, system.workers worker = some (.call op hscope next) →
      ∃ claim, system.claims[worker]? = some claim ∧
        EntryMediated manager claim system.world.db op) ∧
    (∀ worker claim loop, system.claims[worker]? = some claim → Serves manager claim loop →
      (listSteps system.world.db claim.run.runId).length ≤ loop.maxToolCalls ∧
        consultations (historyOf worker log) ≤ loop.maxToolCalls + 1) ∧
    ∀ (loop : DynamicToolLoop) context runtimeInput state rounds observations,
      loop.maxToolCalls + 1 ≤ rounds →
        loop.iterate context runtimeInput state rounds observations =
          loop.iterate context runtimeInput state (loop.maxToolCalls + 1) observations := by
  intro system log
  have hinv : AttemptInv manager system log := attemptInv_run hfresh
  refine ⟨fun worker op hscope next hworker ↦ ?_, fun worker claim loop hclaim hserves ↦ ?_,
    fun loop context runtimeInput state rounds observations hrounds ↦ ?_⟩
  · obtain ⟨claim, hclaim, hmay, -⟩ := hinv.programs worker _ hworker
    exact ⟨claim, hclaim, (hinv.conducted worker claim hclaim).entryMediated
      (List.mem_of_getElem? hclaim) hinv.sound hmay⟩
  · exact ⟨hinv.sound.steps_le hinv.one (List.mem_of_getElem? hclaim) hserves,
      (hinv.conducted worker claim hclaim).consultations_le hserves⟩
  · obtain ⟨more, rfl⟩ := Nat.exists_eq_add_of_le hrounds
    rw [Nat.add_right_comm]
    exact loop.iterate_add state loop.maxToolCalls more observations (Nat.le_add_left _ _)

set_option maxRecDepth 10000 in
/-- The attempt of `sampleDispatch` enters the provider for a mediated call, and its Run has at most
four steps. -/
theorem dispatched_call_is_mediated :
    let labels := sampleDispatch ++ List.replicate 3 (storeStep 0 "b")
    let system := (systemMachine sampleHasher sampleManager).run System.init labels
    ∃ claim providerName dispatch request, system.claims[0]? = some claim ∧
      EntryMediated sampleManager claim system.world.db
        (.enterProvider providerName dispatch request) ∧
      (listSteps system.world.db claim.run.runId).length ≤ 4 := by
  intro labels system
  have hfresh : (systemMachine sampleHasher sampleManager).Admits FreshLeases System.init
      labels := by decide +kernel
  have henters : entersProvider (system.workers 0) = true := by decide +kernel
  obtain ⟨providerName, dispatch, request, hscope, next, hworker⟩ :=
    (entersProvider_iff _).mp henters
  obtain ⟨hentries, hbudget, -⟩ := tools_are_mediated sampleHasher sampleManager labels hfresh
  obtain ⟨claim, hclaim, hmediated⟩ := hentries 0 _ hscope next hworker
  have hserves : Serves sampleManager claim sampleLoop := by
    obtain ⟨call, hcall, -⟩ := hmediated
    obtain ⟨registration, hregistration, -⟩ := hcall.serves
    refine ⟨registration, hregistration, ?_⟩
    simp only [RuntimeManager.registrationFor, sampleManager] at hregistration
    split_ifs at hregistration
    rw [← Except.ok.inj hregistration]
    rfl
  exact ⟨claim, providerName, dispatch, request, hclaim, hmediated,
    (hbudget 0 claim sampleLoop hclaim hserves).1⟩

end AgentRuntime.Execution
