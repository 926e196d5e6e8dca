import Mathlib.Order.Interval.Finset.Nat
import AgentRuntime.Execution.DispatchAccounting

/-!
# Bounded dispatch with a stable identity

Every program of a worker follows the accounting protocol. The coordinator is followed round by
round: `wp_dispatchRequest` spends the dispatch that a round holds, `wp_retryAfterAmbiguousResult`
commits the next one below the maximum, and `wp_dispatchExternalAction` closes the loop by induction
on its rounds. Everything else an attempt does is calm, so loop and manager only pass the result on.
`dispatches_are_bounded` is the conclusion for every history of workers, crashes, takeovers,
cancellations and provider answers.
-/

set_option autoImplicit false
set_option relaxedAutoImplicit false

namespace AgentRuntime.Execution

open Library Store

section Protocol

variable {hasher : Hasher} {deployment : Deployment} {worker : Nat} {world before after : World}

/-! ### Dispatching operations -/

/-- If the reply claims a dispatch, the worker holds it, with the identity of the action. -/
def Claims (worker : Nat) (outcome : ExternalActionDispatchOutcome)
    (action : ExternalActionRecord) (reply : ExternalActionDispatchResult) (world : World) : Prop :=
  reply.outcome = outcome → ∃ token, reply.dispatchToken = some token ∧
    HoldsDispatch worker world (.of action.runId action.stepId reply.action) token ∧
    externalActionIdentity reply.action = externalActionIdentity action.toExternalActionRow

theorem Claims.rely {outcome : ExternalActionDispatchOutcome} {action : ExternalActionRecord}
    {reply : ExternalActionDispatchResult} (hclaims : Claims worker outcome action reply before)
    (hrely : (accounting hasher deployment).rely worker before after) :
    Claims worker outcome action reply after := by
  intro houtcome
  obtain ⟨token, htoken, hholds, hidentity⟩ := hclaims houtcome
  exact ⟨token, htoken, hholds.rely hrely, hidentity⟩

/-- The row of an action, as its worker once saw it. -/
theorem Seen.find {action : ExternalActionRecord} {row : ExternalActionRow}
    (hseen : Seen world action)
    (hfind : world.db.externalActions.find (action.runId, action.stepId) = some row) :
    externalActionIdentity row = externalActionIdentity action.toExternalActionRow ∧
      row.actionId = action.actionId ∧
      ∀ token, action.dispatchToken = some token → row.dispatchToken = some token →
        row.dispatchCount = action.dispatchCount := by
  obtain ⟨tokens, other, -, htoken, hother, hrow⟩ := hseen.row
  obtain rfl := Option.some.inj (hother.symm.trans hfind)
  refine ⟨hrow.identity, hrow.actionId, fun token haction hcurrent ↦ ?_⟩
  exact (hrow.token token (htoken token haction) hcurrent).2

/-- A dispatching call that claims a dispatch only of a row that may be dispatched. -/
theorem step_of_dispatch (call : Call) (reply : call.Reply) (retry : Bool)
    {result : ExternalActionDispatchResult} {outcome : ExternalActionDispatchOutcome}
    {reading : Reading} {db : Database} {action : ExternalActionRecord}
    (haccounted : Accounted deployment before) (hseen : Seen before action)
    (hclaimed : claimedDispatch call reply =
      if result.outcome = outcome then some (action.runId, action.stepId, result) else none)
    (hresult : (db = before.db ∧ result.outcome ≠ outcome) ∨
      ∃ row, Dispatchable deployment before reading action.runId action.stepId row ∧
        result = dispatchReply outcome reading row ∧
        db = recordDispatch before.db reading action.runId action.stepId row retry) :
    Accounted deployment (before.record worker call reply db) ∧
      (accounting hasher deployment).guar worker before (before.record worker call reply db) ∧
      Claims worker outcome action result (before.record worker call reply db) := by
  obtain ⟨rfl, houtcome⟩ | ⟨row, hready, rfl, rfl⟩ := hresult
  · rw [if_neg houtcome] at hclaimed
    unfold World.record
    rw [hclaimed]
    exact ⟨haccounted, guar_of_calls (.refl before) rfl, fun hclaim ↦ (houtcome hclaim).elim⟩
  · have hclaimed := hclaimed.trans (if_pos rfl)
    unfold World.record
    rw [hclaimed]
    refine ⟨haccounted.dispatch hready, guar_of_calls (evolves_of_dispatch hready) rfl, fun _ ↦ ?_⟩
    exact ⟨_, rfl, holds_of_dispatch haccounted hready, (hseen.find hready.find).1⟩

theorem wp_beginExternalActionDispatch {action : ExternalActionRecord} (attempt : String)
    (lease : Option String) (hseen : Seen world action) :
    (WorkflowStore.beginExternalActionDispatch action.runId action.stepId attempt lease).wp
      (accounting hasher deployment) worker
      (fun result later ↦ match result with
        | .ok reply => Claims worker .claimed action reply later
        | .error _ => True) world := by
  refine Program.wp_ask fun before answer after hrely haccounted hstep ↦ ?_
  obtain ⟨response, hperform, hfresh⟩ := hstep
  obtain ⟨reading, fault, rfl, ⟨rfl, failure, rfl⟩ | ⟨reply, db, hok, rfl, hanswer⟩⟩ :=
    committed_of_perform hperform
  · exact ⟨haccounted, guar_of_calls (.refl _) rfl, fun _ _ _ ↦ trivial⟩
  · have hseen := hseen.evolve hrely.1
    obtain ⟨hafter, hguar, hclaims⟩ := step_of_dispatch
        (.workflow (.beginExternalActionDispatch action.runId action.stepId attempt lease)) reply
        false haccounted hseen rfl <| by
      refine (dispatch_of_begin hok).imp_right fun ⟨row, hfind, hprepared, hreply, hdb⟩ ↦ ?_
      have hnever := (haccounted.rows _ _ hfind).prepared hprepared
      refine ⟨row, ⟨hfind, ?_, fun _ ↦ hnever.count, hfresh⟩, hreply, hdb⟩
      exact hnever.count ▸ deployment.maxDispatches_pos
    refine ⟨hafter, hguar, fun later hlater _ ↦ ?_⟩
    obtain rfl | ⟨message, rfl⟩ := hanswer
    · exact hclaims.rely hlater
    · trivial

theorem wp_retryExternalActionDispatch {action : ExternalActionRecord} {previous : String}
    (attempt : String) (lease : Option String) (hseen : Seen world action)
    (htoken : action.dispatchToken = some previous)
    (hcount : action.dispatchCount < deployment.maxDispatches) :
    (WorkflowStore.retryExternalActionDispatch action.runId action.stepId previous attempt
      lease).wp (accounting hasher deployment) worker
      (fun result later ↦ match result with
        | .ok reply => Claims worker .retryClaimed action reply later
        | .error _ => True) world := by
  refine Program.wp_ask fun before answer after hrely haccounted hstep ↦ ?_
  obtain ⟨response, hperform, hfresh⟩ := hstep
  obtain ⟨reading, fault, rfl, ⟨rfl, failure, rfl⟩ | ⟨reply, db, hok, rfl, hanswer⟩⟩ :=
    committed_of_perform hperform
  · exact ⟨haccounted, guar_of_calls (.refl _) rfl, fun _ _ _ ↦ trivial⟩
  · have hseen := hseen.evolve hrely.1
    obtain ⟨hafter, hguar, hclaims⟩ := step_of_dispatch
        (.workflow (.retryExternalActionDispatch action.runId action.stepId previous attempt lease))
        reply true haccounted hseen rfl <| by
      refine (dispatch_of_retry hok).imp_right
        fun ⟨row, hfind, _, hmode, hcurrent, hreply, hdb⟩ ↦ ?_
      -- The row still holds the token of the record, so it has the count of the record.
      have hsame := (hseen.find hfind).2.2 previous htoken hcurrent
      exact ⟨row, ⟨hfind, hsame ▸ hcount, fun hunsafe ↦ (hmode hunsafe).elim, hfresh⟩, hreply, hdb⟩
    refine ⟨hafter, hguar, fun later hlater _ ↦ ?_⟩
    obtain rfl | ⟨message, rfl⟩ := hanswer
    · exact hclaims.rely hlater
    · trivial

/-! ### Calling the provider -/

theorem ownCalls_append_of_ne {calls : List ProviderCall} {call : ProviderCall} {other : Nat}
    (hother : call.worker ≠ other) :
    ({ world with calls := calls ++ [call] } : World).ownCalls other =
      ({ world with calls := calls } : World).ownCalls other := by
  have hfilter : (call.worker == other) = false := by simpa using hother
  simp only [World.ownCalls, List.filter_append, List.filter_cons, hfilter, List.filter_nil,
    Bool.false_eq_true, if_false, List.append_nil]

/-- A dispatch is spent by entering the provider that the action was prepared for. -/
theorem wp_enterProvider {action : ExternalActionRecord} {token providerName : String}
    {request : ExternalActionRequest} {provider : ExternalActionProvider}
    (hholds : HoldsDispatch worker world action token)
    (hrequest : externalActionRequest action = .ok request)
    (hname : action.providerName = providerName)
    (hroute : deployment.route providerName = some provider)
    (hidentity : provider.providerIdentity = action.providerIdentity)
    (hsupported : ¬ deployment.Unsupported action.toExternalActionRow) :
    (Program.ask (Op.enterProvider providerName action.dispatchCount request) rfl :
      Runtime Unit).wp (accounting hasher deployment) worker
      (fun result later ↦ result = .ok () ∧ Seen later action) world := by
  refine Program.wp_ask fun before answer after hrely haccounted hstep ↦ ?_
  obtain ⟨response, hperform, -⟩ := hstep
  have hholds := hholds.rely hrely
  have hkey := externalActionRequest_key hrequest
  cases response with
  | noted =>
    obtain ⟨rfl, rfl⟩ := Prod.mk.inj (Option.some.inj hperform)
    obtain ⟨tokens, row, -, -, hfind, hrow⟩ := hholds.seen.row
    have hsame : Evolves before { before with
        calls := before.calls ++
          [before.entry worker providerName action.dispatchCount request] } :=
      ⟨(Evolves.refl before).rows, List.Subset.refl _, List.Subset.refl _⟩
    refine ⟨?_, ⟨hsame, fun other hother ↦ ownCalls_append_of_ne hother⟩, fun later hlater _ ↦ ?_⟩
    · have hunspent := hholds.unspent
      rw [← hkey.1, ← hkey.2] at hunspent hfind
      have hrowName : row.providerName = action.providerName :=
        congrArg ExternalActionIdentity.providerName hrow.identity
      have hrowIdentity : row.providerIdentity = action.providerIdentity :=
        congrArg ExternalActionIdentity.providerIdentity hrow.identity
      refine haccounted.enter hunspent hfind ?_ (hname.symm.trans hrowName.symm) ?_ ?_
      · rw [externalActionRequest_congr hrow.actionId hrow.identity, hkey.1, hkey.2]
        exact hrequest
      · rw [hroute, hrowIdentity, ← hidentity]
        rfl
      · rw [unsupported_congr hrow.identity]
        exact hsupported
    · exact ⟨rfl, (hholds.seen.evolve hsame).evolve hlater.1⟩
  | _ => cases hperform

/-- The worker's own call with the dispatch of the record was answered with a definitive failure, or
the action cannot be dispatched at all. -/
def Refused (deployment : Deployment) (worker : Nat) (world : World)
    (action : ExternalActionRecord) : Prop :=
  (∃ entry ∈ world.ownCalls worker,
      entry.1 = ⟨worker, action.runId, action.stepId, action.dispatchCount⟩ ∧
        entry.2 = some (.error .definitive)) ∨
    deployment.Unsupported action.toExternalActionRow

theorem Refused.rely {action : ExternalActionRecord}
    (hrefused : Refused deployment worker before action)
    (hrely : (accounting hasher deployment).rely worker before after) :
    Refused deployment worker after action := by
  unfold Refused
  rw [hrely.2]
  exact hrefused

/-- What the worker was told is on record for a row with the dispatch of its record. -/
theorem Refused.denied {action : ExternalActionRecord} {row : ExternalActionRow} {token : String}
    (hrefused : Refused deployment worker world action) (hseen : Seen world action)
    (htoken : action.dispatchToken = some token)
    (hfind : world.db.externalActions.find (action.runId, action.stepId) = some row)
    (hcurrent : row.dispatchToken = some token) :
    Denied deployment world.calls (action.runId, action.stepId) row := by
  obtain ⟨entry, hmem, hkey, hanswer⟩ | hunsupported := hrefused
  · obtain ⟨call, hcall, rfl⟩ := List.mem_map.mp hmem
    have hcommit : call.commit = ⟨worker, action.runId, action.stepId, action.dispatchCount⟩ := hkey
    have hcount : row.dispatchCount = action.dispatchCount :=
      (hseen.find hfind).2.2 token htoken hcurrent
    refine .inl ⟨call, List.mem_of_mem_filter hcall, ?_, ?_⟩
    · rw [hcount]
      exact congrArg DispatchCommit.key hcommit
    have hanswer : call.answer = some (.error .definitive) := hanswer
    unfold ProviderCall.isDefinitive
    rw [hanswer]
  · exact .inr ((unsupported_congr (hseen.find hfind).1).mpr hunsupported)

/-- The provider answers; a definitive failure is on record. -/
theorem wp_awaitProvider {action : ExternalActionRecord} (hseen : Seen world action) :
    (Program.ask (Op.awaitProvider action.runId action.stepId action.dispatchCount) rfl :
      Runtime Json).wp (accounting hasher deployment) worker
      (fun result later ↦ Seen later action ∧
        (result = .error .definitive → Refused deployment worker later action)) world := by
  refine Program.wp_ask fun before answer after hrely haccounted hstep ↦ ?_
  obtain ⟨response, hperform, -⟩ := hstep
  cases response with
  | provider given =>
    simp only [World.perform] at hperform
    split_ifs at hperform with hfits
    obtain ⟨rfl, rfl⟩ := Prod.mk.inj (Option.some.inj hperform)
    rw [Bool.and_eq_true, List.any_eq_true, List.all_eq_true] at hfits
    obtain ⟨⟨call, hmem, hopen⟩, hallowed⟩ := hfits
    have hcalls : List.Forall₂ CallEvolves before.calls
        (answeredCalls before.calls worker action.runId action.stepId action.dispatchCount given) :=
      callEvolves_answered fun call hmem hopen ↦ by simpa [hopen] using hallowed call hmem
    have hsame : Evolves before { before with
        calls := answeredCalls before.calls worker action.runId action.stepId
          action.dispatchCount given } :=
      ⟨(Evolves.refl before).rows, List.Subset.refl _, List.Subset.refl _⟩
    refine ⟨haccounted.calls hcalls, ⟨hsame, fun other ↦ ownCalls_answered_of_ne⟩,
      fun later hlater _ ↦ ⟨((hseen.evolve hrely.1).evolve hsame).evolve hlater.1, ?_⟩⟩
    rintro rfl
    refine Refused.rely ?_ hlater
    have hcommit := (isOpen_iff.mp hopen).1
    refine .inl ⟨(call.commit, some (.error .definitive)), ?_, hcommit, rfl⟩
    have howner : call.worker = worker := congrArg DispatchCommit.worker hcommit
    have hanswered : ({ call with answer := some (.error .definitive) } : ProviderCall) ∈
        answeredCalls before.calls worker action.runId action.stepId action.dispatchCount
          (.error .definitive) :=
      List.mem_map.mpr ⟨call, hmem, if_pos hopen⟩
    exact howner ▸ mem_ownCalls { before with calls := _ } hanswered
  | _ => cases hperform

/-! ### Plain code -/

/-- Plain code keeps whatever its worker may rely on. -/
theorem keep_plain {α : Type} {assertion : World → Prop} (program : Plain α)
    (hstable : ∀ before after, (accounting hasher deployment).rely worker before after →
      assertion before → assertion after) (hstart : assertion world) :
    program.wp (accounting hasher deployment) worker (fun _ later ↦ assertion later) world := by
  refine Program.wp_of_scope hstable (fun op hop ↦ ?_) hstart
  obtain ⟨hcalm, hfailing⟩ := op.isCalm_of_plain hop
  exact keeps_of_calm hcalm hfailing hstable

theorem wp_of_plain {α : Type} {assertion : World → Prop} (program : Plain α)
    (hstable : ∀ before after, (accounting hasher deployment).rely worker before after →
      assertion before → assertion after) (hstart : assertion world) :
    (program : Runtime α).wp (accounting hasher deployment) worker
      (fun _ later ↦ assertion later) world :=
  Program.wp_widen (keep_plain program hstable hstart)

/-- Quiet code is plain. -/
theorem wp_of_quiet {α : Type} {assertion : World → Prop} (program : Quiet α)
    (hstable : ∀ before after, (accounting hasher deployment).rely worker before after →
      assertion before → assertion after) (hstart : assertion world) :
    (program : Runtime α).wp (accounting hasher deployment) worker
      (fun _ later ↦ assertion later) world :=
  wp_of_plain (program : Plain α) hstable hstart

/-- The code keeps the protocol, whatever it returns. -/
abbrev Safe (hasher : Hasher) (deployment : Deployment) (worker : Nat) {scope : Op → Bool}
    {α : Type} (program : Program Op.Answer Failure scope α) (world : World) : Prop :=
  program.wp (accounting hasher deployment) worker (fun _ _ ↦ True) world

theorem safe_plain {α : Type} (program : Plain α) :
    Safe hasher deployment worker (program : Runtime α) world :=
  wp_of_plain program (fun _ _ _ _ ↦ trivial) trivial

theorem safe_quiet {α : Type} (program : Quiet α) :
    Safe hasher deployment worker (program : Runtime α) world :=
  wp_of_quiet program (fun _ _ _ _ ↦ trivial) trivial

/-- Where the model follows a loop no further, nothing happens any more. -/
theorem safe_unfollowed {α : Type} : Safe hasher deployment worker
    ((Program.ask Op.unfollowed Op.runtime_unfollowed).bind Empty.elim : Runtime α) world := by
  intro before _ haccounted answer after hstep
  obtain ⟨response, hperform, -⟩ := hstep
  cases response <;> cases hperform

theorem safe_raise {α : Type} {scope : Op → Bool} (failure : Failure) :
    Safe hasher deployment worker (.raise failure : Program Op.Answer Failure scope α) world :=
  fun _ _ _ ↦ trivial

theorem safe_done {α : Type} {scope : Op → Bool} (value : α) :
    Safe hasher deployment worker (.done value : Program Op.Answer Failure scope α) world :=
  fun _ _ _ ↦ trivial

/-- What follows a part with a postcondition is safe where the postcondition holds. -/
theorem safe_bind {α β : Type} {scope : Op → Bool} {post : Except Failure α → World → Prop}
    {program : Program Op.Answer Failure scope α} {rest : α → Program Op.Answer Failure scope β}
    (hwp : program.wp (accounting hasher deployment) worker post world)
    (hrest : ∀ value later, post (.ok value) later →
      Safe hasher deployment worker (rest value) later) :
    Safe hasher deployment worker (program.bind rest) world :=
  Program.wp_seq post hwp (fun value later _ ↦ hrest value later) fun _ _ _ _ ↦ trivial

/-! ### The coordinator -/

/-- The action is dispatched to the provider and under the retry mode of this invocation. -/
structure Routed (deployment : Deployment) (registry : ProviderRegistry) (providerName : String)
    (mode : ExternalActionRetryMode) (action : ExternalActionRow) : Prop where
  dispatcher : deployment.dispatcher = some registry
  providerName : action.providerName = providerName
  retryMode : action.retryMode = mode

theorem Routed.route {registry : ProviderRegistry} {providerName : String}
    {mode : ExternalActionRetryMode} {action : ExternalActionRow}
    (hrouted : Routed deployment registry providerName mode action) :
    deployment.route providerName = registry providerName := by
  unfold Deployment.route
  rw [hrouted.dispatcher]
  rfl

theorem Routed.congr {registry : ProviderRegistry} {providerName : String}
    {mode : ExternalActionRetryMode} {action next : ExternalActionRow}
    (hrouted : Routed deployment registry providerName mode action)
    (hidentity : externalActionIdentity next = externalActionIdentity action) :
    Routed deployment registry providerName mode next where
  dispatcher := hrouted.dispatcher
  providerName :=
    (congrArg ExternalActionIdentity.providerName hidentity).trans hrouted.providerName
  retryMode := (congrArg ExternalActionIdentity.retryMode hidentity).trans hrouted.retryMode

/-- One round of a dispatch: the provider is entered at most once, and a definitive failure is on
record. -/
theorem wp_dispatchRequest {registry : ProviderRegistry} {providerName token : String}
    {mode : ExternalActionRetryMode} {action : ExternalActionRecord}
    {request : ExternalActionRequest} (hholds : HoldsDispatch worker world action token)
    (hrouted : Routed deployment registry providerName mode action.toExternalActionRow)
    (hidentity : (registry providerName).map ExternalActionProvider.providerIdentity =
      some action.providerIdentity)
    (hrequest : externalActionRequest action = .ok request) :
    (dispatchRequest registry providerName mode action.dispatchCount request).wp
      (accounting hasher deployment) worker
      (fun result later ↦ Seen later action ∧
        (result = .error .definitive → Refused deployment worker later action)) world := by
  obtain ⟨provider, hprovider, hprovided⟩ := Option.map_eq_some_iff.mp hidentity
  have hroute : deployment.route providerName = some provider := hrouted.route.trans hprovider
  have hkey := externalActionRequest_key hrequest
  unfold dispatchRequest
  rw [hprovider]
  simp only [Program.throw_eq_raise, Program.bind_eq_bind, Program.pure_eq_done,
    Program.discard_eq_bind, Program.bind_bind, Program.done_bind, Program.raise_bind]
  split_ifs with hunsupported
  · refine Program.wp_raise fun later hlater _ ↦ ⟨hholds.seen.evolve hlater.1, fun _ ↦ .inr ?_⟩
    refine ⟨hrouted.retryMode.trans hunsupported.1, fun other hother ↦ ?_⟩
    rw [hrouted.providerName, hroute] at hother
    exact Option.some.inj hother ▸ hunsupported.2
  · have hsupported : ¬ deployment.Unsupported action.toExternalActionRow := fun hdenied ↦
      hunsupported ⟨hrouted.retryMode.symm.trans hdenied.1,
        hdenied.2 provider (hrouted.providerName.symm ▸ hroute)⟩
    refine Program.wp_try (fun result later ↦ Seen later action ∧
      (result = .error .definitive → Refused deployment worker later action)) ?_ ?_
    · refine Program.wp_seq _ (wp_enterProvider hholds hrequest hrouted.providerName hroute
        hprovided hsupported) (fun _ later _ hentered ↦ ?_) fun failure later _ hentered ↦ ?_
      · rw [hkey.1, hkey.2]
        exact wp_awaitProvider hentered.2
      · cases hentered.1
    · intro result later _ hpost
      have hseen (last : World)
          (hlast : (accounting hasher deployment).rely worker later last) : Seen last action :=
        hpost.1.evolve hlast.1
      split
      · refine Program.wp_raise fun last hlast _ ↦ ⟨hseen last hlast, fun _ ↦ ?_⟩
        exact (hpost.2 rfl).rely hlast
      · exact Program.wp_raise fun last hlast _ ↦ ⟨hseen last hlast, nofun⟩
      · split
        · exact Program.wp_done fun last hlast _ ↦ ⟨hseen last hlast, nofun⟩
        · exact Program.wp_raise fun last hlast _ ↦ ⟨hseen last hlast, nofun⟩

/-- The code does not return. -/
abbrev Raises (hasher : Hasher) (deployment : Deployment) (worker : Nat) {scope : Op → Bool}
    {α : Type} (program : Program Op.Answer Failure scope α) (world : World) : Prop :=
  program.wp (accounting hasher deployment) worker (fun result _ ↦ ∀ value, result ≠ .ok value)
    world

theorem raises_fail {α : Type} (coordinator : ExternalActionCoordinator)
    (context : RuntimeExecutionContext) (code detail : String) :
    Raises hasher deployment worker (coordinator.fail context code detail : Plain α) world := by
  refine Program.wp_seq (fun _ _ ↦ True) ?_ (fun value ↦ value.elim) fun _ _ _ _ ↦ nofun
  exact keep_plain _ (fun _ _ _ _ ↦ trivial) trivial

theorem raises_plain {α : Type} {program : Plain α}
    (hraises : Raises hasher deployment worker program world) :
    Raises hasher deployment worker (program : Runtime α) world :=
  Program.wp_widen hraises

theorem raises_raise {α : Type} {scope : Op → Bool} (failure : Failure) :
    Raises hasher deployment worker (.raise failure : Program Op.Answer Failure scope α) world :=
  fun _ _ _ _ ↦ nofun

/-- Code that goes on to raise after plain code raises. -/
theorem raises_bind {α β : Type} (program : Plain α) {rest : α → Plain β}
    (hrest : ∀ value later, Raises hasher deployment worker (rest value) later) :
    Raises hasher deployment worker (program.bind rest) world :=
  Program.wp_seq (fun _ _ ↦ True) (keep_plain program (fun _ _ _ _ ↦ trivial) trivial)
    (fun value later _ _ ↦ hrest value later) fun _ _ _ _ ↦ nofun

theorem safe_finalizeExternalActionFailed {action : ExternalActionRecord}
    {dispatchToken : String} (attemptToken code : String) (hseen : Seen world action)
    (htoken : action.dispatchToken = some dispatchToken)
    (hrefused : Refused deployment worker world action) :
    Safe hasher deployment worker (WorkflowStore.finalizeExternalActionFailed action.runId
      action.stepId dispatchToken attemptToken code) world := by
  refine Program.wp_ask fun before answer after hrely haccounted hstep ↦ ?_
  have hdenied (key : String × String) (row : ExternalActionRow)
      (hfailing : key = (action.runId, action.stepId) ∧ row.dispatchToken = some dispatchToken)
      (hfind : before.db.externalActions.find key = some row) :
      Denied deployment before.calls key row := by
    obtain ⟨rfl, hcurrent⟩ := hfailing
    exact (hrefused.rely hrely).denied (hseen.evolve hrely.1) htoken hfind hcurrent
  obtain ⟨hafter, hevolves, hcalls⟩ := accounted_of_calm hstep rfl haccounted hdenied
  exact ⟨hafter, guar_of_calls hevolves hcalls, fun _ _ _ ↦ trivial⟩

theorem safe_recordDefinitiveFailure {α : Type} (coordinator : ExternalActionCoordinator)
    (context : RuntimeExecutionContext) (step : ToolCallRecord) {action : ExternalActionRecord}
    {dispatchToken : String} (attemptToken : String) (hrunId : action.runId = context.runId)
    (hstepId : action.stepId = step.stepId) (hseen : Seen world action)
    (htoken : action.dispatchToken = some dispatchToken)
    (hrefused : Refused deployment worker world action) :
    Safe hasher deployment worker (coordinator.recordDefinitiveFailure context step action
      dispatchToken attemptToken : Runtime α) world := by
  unfold ExternalActionCoordinator.recordDefinitiveFailure
  simp only [Program.bind_eq_bind]
  refine Program.wp_try (fun _ _ ↦ True) ?_ fun recorded later _ _ ↦ ?_
  · rw [← hrunId, ← hstepId]
    exact safe_finalizeExternalActionFailed _ _ hseen htoken hrefused
  · split
    · exact safe_plain _
    · refine safe_bind (safe_quiet _) fun committed _ _ ↦ ?_
      split_ifs
      · exact safe_plain _
      · exact safe_bind (safe_plain _) fun _ _ _ ↦ safe_plain _

/-- A retry after an ambiguous answer holds a new dispatch of the same action. -/
theorem wp_retryAfterAmbiguousResult {coordinator : ExternalActionCoordinator}
    (invocation : Invocation) (step : ToolCallRecord) {action : ExternalActionRecord}
    {dispatchToken : String} (attemptToken : String)
    (hmax : coordinator.maxDispatches = deployment.maxDispatches)
    (hrunId : action.runId = invocation.context.runId) (hstepId : action.stepId = step.stepId)
    (hseen : Seen world action) (htoken : action.dispatchToken = some dispatchToken) :
    (coordinator.retryAfterAmbiguousResult invocation step action dispatchToken attemptToken).wp
      (accounting hasher deployment) worker
      (fun result later ↦ ∀ rotated token, result = .ok (some (rotated, token)) →
        rotated.runId = action.runId ∧ rotated.stepId = action.stepId ∧
        externalActionIdentity rotated.toExternalActionRow =
          externalActionIdentity action.toExternalActionRow ∧
        HoldsDispatch worker later rotated token) world := by
  unfold ExternalActionCoordinator.retryAfterAmbiguousResult
  simp only [Program.bind_eq_bind, Program.pure_eq_done]
  rw [← hrunId, ← hstepId]
  split_ifs with hstop
  · refine Program.wp_done fun _ _ _ rotated token heq ↦ ?_
    cases Except.ok.inj heq
  rw [not_or, hmax, not_le] at hstop
  refine Program.wp_seq _ (wp_retryExternalActionDispatch attemptToken _ hseen htoken hstop.2)
    (fun retry later _ hclaims ↦ ?_) fun _ _ _ _ _ _ heq ↦ by cases heq
  refine Program.wp_seq (fun _ later ↦ Claims worker .retryClaimed action retry later)
    (wp_of_quiet _ (fun _ _ hrely hclaims ↦ hclaims.rely hrely) hclaims)
    (fun _ later _ hclaims ↦ ?_) fun _ _ _ _ _ _ heq ↦ by cases heq
  split
  · next token houtcome htoken =>
    refine Program.wp_done fun last hlast _ rotated other heq ↦ ?_
    obtain ⟨rfl, rfl⟩ := Prod.mk.inj (Option.some.inj (Except.ok.inj heq))
    obtain ⟨claimed, hclaimed, hholds, hidentity⟩ := hclaims houtcome
    obtain rfl : token = claimed := Option.some.inj (htoken.symm.trans hclaimed)
    exact ⟨rfl, rfl, hidentity, hholds.rely hlast⟩
  · exact Program.wp_mono (raises_plain (raises_fail ..)) fun _ _ _ hraised _ _ heq ↦
      (hraised _ heq).elim
  · refine Program.wp_done fun _ _ _ rotated token heq ↦ ?_
    cases Except.ok.inj heq
  · exact Program.wp_mono (raises_plain (raises_fail ..)) fun _ _ _ hraised _ _ heq ↦
      (hraised _ heq).elim

/-- What follows an ambiguous answer is safe if the next round is. -/
theorem safe_retryOrUnknown {coordinator : ExternalActionCoordinator}
    {registry : ProviderRegistry} {providerName : String} (invocation : Invocation)
    (step : ToolCallRecord) (attemptToken : String)
    (hmax : coordinator.maxDispatches = deployment.maxDispatches)
    {action : ExternalActionRecord} {token : String}
    (hrunId : action.runId = invocation.context.runId) (hstepId : action.stepId = step.stepId)
    (hrouted : Routed deployment registry providerName invocation.spec.retryMode
      action.toExternalActionRow)
    (hseen : Seen world action) (htoken : action.dispatchToken = some token)
    {again : ExternalActionRecord → String → Runtime ToolObservation}
    (hagain : ∀ later rotated token, rotated.runId = invocation.context.runId →
      rotated.stepId = step.stepId →
      Routed deployment registry providerName invocation.spec.retryMode
        rotated.toExternalActionRow →
      HoldsDispatch worker later rotated token →
      Safe hasher deployment worker (again rotated token) later) :
    Safe hasher deployment worker
      (coordinator.retryOrUnknown invocation step attemptToken again action token) world := by
  unfold ExternalActionCoordinator.retryOrUnknown
  simp only [Program.bind_eq_bind]
  refine safe_bind (wp_retryAfterAmbiguousResult invocation step attemptToken hmax hrunId hstepId
    hseen htoken) fun retry later hretry ↦ ?_
  split
  · exact safe_plain _
  · next rotated next =>
    obtain ⟨hrun, hstep, hidentity, hholds⟩ := hretry rotated next rfl
    exact hagain later rotated next (hrun.trans hrunId) (hstep.trans hstepId)
      (hrouted.congr hidentity) hholds

/-- `_dispatch_external_action` is safe with a dispatch in hand, by induction on its rounds. -/
theorem safe_dispatchExternalAction {coordinator : ExternalActionCoordinator}
    {registry : ProviderRegistry} {providerName : String} (invocation : Invocation)
    (step : ToolCallRecord) (attemptToken : String)
    (hmax : coordinator.maxDispatches = deployment.maxDispatches) (rounds : Nat)
    {action : ExternalActionRecord} {token : String}
    (hrunId : action.runId = invocation.context.runId) (hstepId : action.stepId = step.stepId)
    (hrouted : Routed deployment registry providerName invocation.spec.retryMode
      action.toExternalActionRow)
    (hholds : HoldsDispatch worker world action token) :
    Safe hasher deployment worker (coordinator.dispatchExternalAction registry providerName
      invocation step attemptToken rounds action token) world := by
  induction rounds generalizing world action token with
  | zero => exact safe_unfollowed
  | succ rounds ih =>
    unfold ExternalActionCoordinator.dispatchExternalAction
    simp only [Program.bind_eq_bind]
    split_ifs with hidentity
    · exact safe_plain _
    rw [not_not] at hidentity
    have hnext (later : World) (hseen : Seen later action) : Safe hasher deployment worker
        (coordinator.retryOrUnknown invocation step attemptToken
          (coordinator.dispatchExternalAction registry providerName invocation step attemptToken
            rounds) action token) later :=
      safe_retryOrUnknown invocation step attemptToken hmax hrunId hstepId hrouted hseen
        hholds.token fun _ _ _ ↦ ih
    cases hrequest : externalActionRequest action with
    | error failure => exact safe_raise failure
    | ok request =>
      refine Program.wp_try _ (wp_dispatchRequest hholds hrouted hidentity hrequest)
        fun answer later _ hanswer ↦ ?_
      split
      · exact safe_recordDefinitiveFailure coordinator _ _ _ hrunId hstepId hanswer.1 hholds.token
          (hanswer.2 rfl)
      · exact hnext later hanswer.1
      · exact safe_raise _
      · split
        · exact safe_plain _
        · exact hnext later hanswer.1

theorem safe_recoverExternalDispatch {coordinator : ExternalActionCoordinator}
    {registry : ProviderRegistry} {providerName : String} (invocation : Invocation)
    (step : ToolCallRecord) (attemptToken : String)
    (hmax : coordinator.maxDispatches = deployment.maxDispatches) {action : ExternalActionRecord}
    (hrunId : action.runId = invocation.context.runId) (hstepId : action.stepId = step.stepId)
    (hrouted : Routed deployment registry providerName invocation.spec.retryMode
      action.toExternalActionRow)
    (hseen : Seen world action) :
    Safe hasher deployment worker (coordinator.recoverExternalDispatch registry providerName
      invocation step action attemptToken) world := by
  unfold ExternalActionCoordinator.recoverExternalDispatch
  simp only [Program.bind_eq_bind, Program.throw_eq_raise]
  split
  · exact safe_raise _
  · next dispatchToken htoken =>
    split_ifs with hunsafe hlimit
    · exact safe_plain _
    · exact safe_plain _
    rw [hmax, not_le] at hlimit
    rw [← hrunId, ← hstepId]
    refine safe_bind (wp_retryExternalActionDispatch attemptToken _ hseen htoken hlimit)
      fun retry later hclaims ↦ ?_
    refine safe_bind (wp_of_quiet _ (fun _ _ hrely hclaims ↦ Claims.rely hclaims hrely) hclaims)
      fun _ later hclaims ↦ ?_
    split
    · exact safe_plain _
    · next token houtcome htoken =>
      obtain ⟨claimed, hclaimed, hholds, hidentity⟩ := hclaims houtcome
      obtain rfl : token = claimed := Option.some.inj (htoken.symm.trans hclaimed)
      exact safe_dispatchExternalAction invocation step attemptToken hmax _ hrunId hstepId
        (hrouted.congr hidentity) hholds
    · exact safe_plain _

/-- A record of the action of a step, with the provider and the retry mode of its invocation. -/
structure Prepared (deployment : Deployment) (runId stepId : String) (registry : ProviderRegistry)
    (providerName : String) (mode : ExternalActionRetryMode) (action : ExternalActionRecord)
    (world : World) : Prop where
  runId : action.runId = runId
  stepId : action.stepId = stepId
  routed : Routed deployment registry providerName mode action.toExternalActionRow
  seen : Seen world action

theorem Prepared.evolve {runId stepId providerName : String} {registry : ProviderRegistry}
    {mode : ExternalActionRetryMode} {action : ExternalActionRecord}
    (hprepared : Prepared deployment runId stepId registry providerName mode action before)
    (hevolves : Evolves before after) :
    Prepared deployment runId stepId registry providerName mode action after :=
  { hprepared with seen := hprepared.seen.evolve hevolves }

theorem raises_rejectPrepared {α : Type} (coordinator : ExternalActionCoordinator)
    (context : RuntimeExecutionContext) (step : ToolCallRecord)
    (prepared : Option ExternalActionRecord) :
    Raises hasher deployment worker
      (coordinator.rejectPrepared context step prepared : Plain α) world := by
  have hrejected (mismatched : Option ExternalActionRecord) (later : World) :
      Raises hasher deployment worker
        (mismatched.elim
          (coordinator.fail context "invalid_planner_decision"
            "Persisted external action binding does not match this execution." : Plain α)
          fun action ↦ if action.status = .dispatching then
              (coordinator.failExternalDispatchBinding context step action : Plain PUnit).bind
                fun _ ↦ coordinator.fail context "invalid_planner_decision"
                  "Persisted external action binding does not match this execution."
            else
              coordinator.fail context "invalid_planner_decision"
                "Persisted external action binding does not match this execution.") later := by
    cases mismatched with
    | none => exact raises_fail ..
    | some action =>
      dsimp only [Option.elim_some]
      split_ifs
      · exact raises_bind _ fun _ _ ↦ raises_fail ..
      · exact raises_fail ..
  unfold ExternalActionCoordinator.rejectPrepared
  simp only [Program.bind_eq_bind, Program.pure_eq_done]
  split
  · next action => exact hrejected (some action) world
  · refine raises_bind _ fun read later ↦ ?_
    split
    · next found =>
      cases found with
      | none => exact hrejected none later
      | some action => exact hrejected (some action) later
    · exact hrejected none later

/-- Unless `prepare_external_action` reports another identity, its reply holds a record of the
action that was asked for. -/
def Offers (deployment : Deployment) (runId stepId : String) (registry : ProviderRegistry)
    (providerName : String) (mode : ExternalActionRetryMode)
    (reply : ExternalActionPrepareResult) (world : World) : Prop :=
  ∀ action, reply.action = some action → reply.outcome ≠ .identityMismatch →
    Prepared deployment runId stepId registry providerName mode (.of runId stepId action) world

theorem wp_prepareExternalAction {registry : ProviderRegistry}
    (hdispatcher : deployment.dispatcher = some registry) (runId stepId attempt : String)
    (identity : ExternalActionIdentity) (lease : Option String) :
    (WorkflowStore.prepareExternalAction runId stepId attempt identity lease).wp
      (accounting hasher deployment) worker
      (fun result later ↦ ∀ reply, result = .ok reply →
        Offers deployment runId stepId registry identity.providerName identity.retryMode reply
          later) world := by
  refine Program.wp_ask fun before answer after _ haccounted hstep ↦ ?_
  obtain ⟨hafter, hevolves, hcalls⟩ := accounted_of_calm hstep rfl haccounted fun _ _ ↦ False.elim
  refine ⟨hafter, guar_of_calls hevolves hcalls, fun later hlater _ reply hreply ↦ ?_⟩
  subst hreply
  obtain ⟨response, hperform, -⟩ := hstep
  obtain ⟨reading, fault, -, ⟨-, failure, hanswer⟩ | ⟨found, db, hok, rfl, hanswer⟩⟩ :=
    committed_of_perform hperform
  · cases hanswer
  · obtain hanswer | ⟨message, hanswer⟩ := hanswer
    · obtain rfl := Except.ok.inj hanswer
      intro action haction houtcome
      obtain ⟨hfind, hidentity⟩ := action_of_prepare hok haction houtcome
      have hseen := (seen_of_find hafter hfind).evolve hlater.1
      exact ⟨rfl, rfl, ⟨hdispatcher, congrArg ExternalActionIdentity.providerName hidentity,
        congrArg ExternalActionIdentity.retryMode hidentity⟩, hseen⟩
    · cases hanswer

/-- Code that raises establishes anything about what it returns. -/
theorem returns_of_raises {α : Type} {scope : Op → Bool} {property : α → World → Prop}
    {program : Program Op.Answer Failure scope α}
    (hraises : Raises hasher deployment worker program world) :
    program.wp (accounting hasher deployment) worker
      (fun result later ↦ ∀ value, result = .ok value → property value later) world :=
  Program.wp_mono hraises fun _ _ _ hraised value heq ↦ (hraised value heq).elim

theorem wp_prepareAction (coordinator : ExternalActionCoordinator) {registry : ProviderRegistry}
    (hdispatcher : deployment.dispatcher = some registry) (invocation : Invocation)
    (toolName providerName providerIdentity : String) (step : ToolCallRecord)
    (attemptToken : String) (recovered : Bool) :
    (coordinator.prepareAction invocation toolName providerName providerIdentity step attemptToken
      recovered).wp (accounting hasher deployment) worker
      (fun result later ↦ ∀ action, result = .ok action →
        Prepared deployment invocation.context.runId step.stepId registry providerName
          invocation.spec.retryMode action later) world := by
  unfold ExternalActionCoordinator.prepareAction
  simp only [Program.bind_eq_bind, Program.pure_eq_done, Program.throw_eq_raise, Program.raise_bind]
  refine Program.wp_try _ (wp_prepareExternalAction hdispatcher _ _ _ _ _)
    fun prepared later _ hprepared ↦ ?_
  split
  · split_ifs
    · exact returns_of_raises (raises_raise _)
    · exact returns_of_raises (raises_fail ..)
  · next reply =>
    refine Program.wp_seq (fun _ later ↦ Offers deployment invocation.context.runId step.stepId
        registry providerName invocation.spec.retryMode reply later)
      (keep_plain _ (fun before after hrely hoffers action haction houtcome ↦ ?_)
        (hprepared reply rfl)) (fun _ later _ hoffers ↦ ?_) fun _ _ _ _ _ heq ↦ by cases heq
    · exact (hoffers action haction houtcome).evolve hrely.1
    split
    · exact returns_of_raises (raises_rejectPrepared ..)
    · exact returns_of_raises (raises_rejectPrepared ..)
    · exact returns_of_raises (raises_raise _)
    · next record hrecord hidentity _ =>
      obtain ⟨action, haction, rfl⟩ := Option.map_eq_some_iff.mp hrecord
      refine Program.wp_seq _ (keep_plain _ (fun _ _ hrely hprepared ↦
        Prepared.evolve hprepared hrely.1) (hoffers action haction hidentity))
        (fun _ later _ hprepared ↦ ?_) fun _ _ _ _ _ heq ↦ by cases heq
      split
      · refine Program.wp_done fun last hlast _ returned heq ↦ ?_
        exact Except.ok.inj heq ▸ hprepared.evolve hlast.1
      · split_ifs
        · exact returns_of_raises (raises_bind _ fun _ _ ↦ raises_fail ..)
        · exact returns_of_raises (raises_fail ..)

theorem safe_settleAction {coordinator : ExternalActionCoordinator} {registry : ProviderRegistry}
    {providerName : String} (invocation : Invocation) (step : ToolCallRecord)
    (attemptToken : String) (recovered : Bool)
    (hmax : coordinator.maxDispatches = deployment.maxDispatches) {action : ExternalActionRecord}
    (hprepared : Prepared deployment invocation.context.runId step.stepId registry providerName
      invocation.spec.retryMode action world) :
    Safe hasher deployment worker (coordinator.settleAction registry providerName invocation step
      attemptToken recovered action) world := by
  unfold ExternalActionCoordinator.settleAction
  simp only [Program.bind_eq_bind]
  split
  · rw [← hprepared.runId, ← hprepared.stepId]
    refine safe_bind (wp_beginExternalActionDispatch attemptToken _ hprepared.seen)
      fun dispatch later hclaims ↦ ?_
    refine safe_bind (wp_of_quiet _ (fun _ _ hrely hclaims ↦ Claims.rely hclaims hrely) hclaims)
      fun _ later hclaims ↦ ?_
    split
    · exact safe_raise _
    · exact safe_plain _
    · next token houtcome htoken =>
      obtain ⟨claimed, hclaimed, hholds, hidentity⟩ := hclaims houtcome
      obtain rfl : token = claimed := Option.some.inj (htoken.symm.trans hclaimed)
      exact safe_dispatchExternalAction invocation step attemptToken hmax _ hprepared.runId
        hprepared.stepId (hprepared.routed.congr hidentity) hholds
    · exact safe_plain _
    · exact safe_plain _
  · split_ifs
    · exact safe_recoverExternalDispatch invocation step attemptToken hmax hprepared.runId
        hprepared.stepId hprepared.routed hprepared.seen
    · exact safe_plain _
  · exact safe_plain _

theorem safe_execute {coordinator : ExternalActionCoordinator}
    (hmax : coordinator.maxDispatches = deployment.maxDispatches)
    (hdispatcher : coordinator.dispatcher = deployment.dispatcher)
    (context : RuntimeExecutionContext) (toolName : String) (spec : ToolSpec) (stepId : String)
    (normalizedArguments : Payload) :
    Safe hasher deployment worker
      (coordinator.execute context toolName spec stepId normalizedArguments) world := by
  unfold ExternalActionCoordinator.execute
  simp only [Program.bind_eq_bind, Program.pure_eq_done]
  split
  · exact safe_plain _
  · next providerName registry providerIdentity hrouted =>
    have hregistry : deployment.dispatcher = some registry := by
      rw [← hdispatcher]
      simp only [Option.bind_eq_bind, Option.bind_eq_some_iff, Option.pure_def, Option.some.injEq,
        Prod.mk.injEq] at hrouted
      obtain ⟨_, _, found, hfound, _, _, _, rfl, _⟩ := hrouted
      exact hfound
    refine safe_bind (safe_plain _) fun start later _ ↦ ?_
    split
    · exact safe_done _
    · refine safe_bind (Program.wp_widen (wp_prepareAction coordinator hregistry _ _ _ _ _ _ _))
        fun action later hprepared ↦ ?_
      exact safe_settleAction _ _ _ _ hmax (hprepared action rfl)

/-! ### The loop and the manager -/

/-- The loop is configured as the deployment is. -/
structure Deployment.Configures (deployment : Deployment) (loop : DynamicToolLoop) : Prop where
  maxDispatches : loop.maxDispatches = deployment.maxDispatches
  dispatcher : loop.dispatcher = deployment.dispatcher

theorem safe_executeCall {loop : DynamicToolLoop} (hloop : deployment.Configures loop)
    (context : RuntimeExecutionContext) (decision : CallToolDecision) (stepId : String)
    (normalizedArguments : Payload) :
    Safe hasher deployment worker
      (loop.executeCall context decision stepId normalizedArguments) world := by
  unfold DynamicToolLoop.executeCall
  split
  · exact safe_plain _
  · split_ifs
    · exact safe_execute hloop.maxDispatches hloop.dispatcher _ _ _ _ _
    · exact safe_plain _

theorem safe_iterate {loop : DynamicToolLoop} (hloop : deployment.Configures loop)
    (context : RuntimeExecutionContext) (runtimeInput state : Payload) (rounds : Nat)
    (observations : List ToolObservation) :
    Safe hasher deployment worker
      (loop.iterate context runtimeInput state rounds observations) world := by
  induction rounds generalizing world observations with
  | zero => exact safe_unfollowed
  | succ rounds ih =>
    unfold DynamicToolLoop.iterate
    simp only [Program.bind_eq_bind]
    refine safe_bind (safe_plain _) fun decision later _ ↦ ?_
    split
    · exact safe_plain _
    · exact safe_plain _
    · refine safe_bind (safe_plain _) fun normalized later _ ↦ ?_
      exact safe_bind (safe_executeCall hloop _ _ _ _) fun _ _ _ ↦ ih _

theorem safe_resumeExecution {loop : DynamicToolLoop} (hloop : deployment.Configures loop)
    (context : RuntimeExecutionContext) (runtimeInput state : Payload) (execution : ExecutionRow) :
    Safe hasher deployment worker
      (loop.resumeExecution context runtimeInput state execution) world := by
  have hrestored (later : World) : Safe hasher deployment worker
      ((loop.restoreObservations context : Runtime (List ToolObservation)).bind
        fun observations ↦ loop.iterate context runtimeInput state loop.rounds observations)
      later :=
    safe_bind (safe_plain _) fun observations _ _ ↦ safe_iterate hloop _ _ _ _ observations
  unfold DynamicToolLoop.resumeExecution
  simp only [Program.bind_eq_bind, Program.discard_eq_bind, Program.bind_bind, Program.done_bind]
  split_ifs
  · exact safe_plain _
  · exact safe_bind (safe_plain _) fun _ later _ ↦ hrestored later
  · exact hrestored world

theorem safe_executeImpl {loop : DynamicToolLoop} (hloop : deployment.Configures loop)
    (context : RuntimeExecutionContext) (runtimeInput state : Payload) :
    Safe hasher deployment worker (loop.executeImpl context runtimeInput state) world := by
  unfold DynamicToolLoop.executeImpl
  simp only [Program.bind_eq_bind, Program.throw_eq_raise]
  refine safe_bind (safe_plain _) fun claim later _ ↦ ?_
  split_ifs
  · exact safe_bind (safe_plain _) fun _ _ _ ↦ safe_raise _
  · refine Program.wp_try _ (safe_plain _) fun mirrored last _ _ ↦ ?_
    split
    · exact safe_resumeExecution hloop _ _ _ _
    · exact safe_bind (safe_plain _) fun _ _ _ ↦ safe_raise _

theorem safe_loop {loop : DynamicToolLoop} (hloop : deployment.Configures loop)
    (context : RuntimeExecutionContext) (runtimeInput state : Payload) :
    Safe hasher deployment worker (loop.execute context runtimeInput state) world := by
  unfold DynamicToolLoop.execute
  simp only [Program.tryCatch_eq_handle, Program.bind_eq_bind, Program.throw_eq_raise,
    Program.raise_bind]
  refine Program.wp_handle (Program.wp_mono (safe_executeImpl hloop _ _ _)
    fun result later _ _ ↦ ?_)
  cases result with
  | ok value => trivial
  | error failure =>
    simp only
    split_ifs
    · exact safe_raise _
    · exact safe_bind (safe_plain _) fun _ _ _ ↦ safe_raise _

/-- A calm operation of the manager. -/
theorem safe_ask {op : Op} (hcalm : op.isCalm = true)
    (hfailing : ∀ key row, ¬ op.failing key row) :
    Safe hasher deployment worker (Program.ask op rfl : Manager op.Answer) world := by
  refine Program.wp_ask fun before answer after _ haccounted hstep ↦ ?_
  obtain ⟨hafter, hevolves, hcalls⟩ := accounted_of_calm hstep hcalm haccounted
    fun key row hkey ↦ (hfailing key row hkey).elim
  exact ⟨hafter, guar_of_calls hevolves hcalls, fun _ _ _ ↦ trivial⟩

theorem safe_run (call : RunCall) :
    Safe hasher deployment worker (runCall call rfl : Manager call.Reply) world :=
  safe_ask rfl fun _ _ ↦ id

theorem safe_ofExcept {α : Type} {scope : Op → Bool} (value : Except Failure α) :
    Safe hasher deployment worker (ofExcept value : Program Op.Answer Failure scope α) world := by
  cases value with
  | ok value => exact safe_done value
  | error failure => exact safe_raise failure

theorem safe_registration {registration : RuntimeRegistration}
    (hloop : deployment.Configures registration.loop) (state : RuntimeState)
    (runtimeInput : Payload) (context : RuntimeExecutionContext) :
    Safe hasher deployment worker (registration.execute state runtimeInput context) world := by
  unfold RuntimeRegistration.execute
  simp only [Program.bind_eq_bind]
  refine safe_bind (safe_quiet _) fun recalled _ _ ↦ ?_
  refine safe_bind (safe_ofExcept _) fun prepared _ _ ↦ ?_
  refine safe_bind (safe_loop hloop _ _ _) fun result _ _ ↦ ?_
  refine safe_bind (safe_quiet _) fun _ _ _ ↦ ?_
  exact safe_bind (safe_ofExcept _) fun response _ _ ↦ safe_done _

namespace RuntimeManager

variable (manager : RuntimeManager)

theorem safe_observed {runtime : Runtime RuntimeResponse}
    (hruntime : Safe hasher deployment worker runtime world) :
    Safe hasher deployment worker (observed runtime) world := by
  unfold observed
  simp only [Program.bind_eq_bind, Program.discard_eq_bind, Program.bind_bind, Program.done_bind,
    Program.pure_eq_done, Program.throw_eq_raise]
  refine Program.wp_try _ (Program.wp_widen hruntime) fun result later _ _ ↦ ?_
  split
  · exact safe_bind (safe_ask rfl fun _ _ ↦ id) fun _ _ _ ↦ safe_done _
  · exact safe_bind (safe_ask rfl fun _ _ ↦ id) fun _ _ _ ↦ safe_raise _

theorem safe_assertReferencedRunsVisible (tenantId : String) (runIds : List String) :
    Safe hasher deployment worker (assertReferencedRunsVisible tenantId runIds) world := by
  induction runIds generalizing world with
  | nil => exact safe_done _
  | cons runId rest ih =>
    unfold assertReferencedRunsVisible
    simp only [Program.bind_eq_bind]
    refine safe_bind (safe_run _) fun found later _ ↦ ?_
    split
    · exact safe_raise _
    · exact ih

theorem safe_runRuntime (claim : RunLeaseClaim) {registration : RuntimeRegistration}
    (hloop : deployment.Configures registration.loop) (checkpoint : ThreadStateSnapshot) :
    Safe hasher deployment worker (runRuntime claim registration checkpoint) world := by
  unfold runRuntime
  simp only [Program.bind_eq_bind, Program.discard_eq_bind, Program.bind_bind, Program.done_bind]
  refine safe_bind (safe_ofExcept _) fun state _ _ ↦ ?_
  refine safe_bind (safe_run _) fun _ _ _ ↦ ?_
  refine safe_bind (safe_ofExcept _) fun runtimeInput _ _ ↦ ?_
  refine safe_bind (safe_assertReferencedRunsVisible _ _) fun _ _ _ ↦ ?_
  refine safe_bind (safe_ofExcept _) fun authority _ _ ↦ ?_
  refine safe_bind (safe_observed (safe_registration hloop _ _ _)) fun response _ _ ↦ ?_
  exact safe_bind (safe_ofExcept _) fun _ _ _ ↦ safe_done _

theorem safe_markCancelled (run : RunRecord) (reason leaseToken : String) :
    Safe hasher deployment worker (markCancelled run reason leaseToken) world := by
  unfold markCancelled
  simp only [Program.discard_eq_bind]
  exact safe_bind (safe_run _) fun _ _ _ ↦ safe_done _

theorem safe_requireRun (runId : String) :
    Safe hasher deployment worker (requireRun runId) world := by
  unfold requireRun
  simp only [Program.bind_eq_bind]
  refine safe_bind (safe_run _) fun found _ _ ↦ ?_
  split
  · exact safe_done _
  · exact safe_raise _

theorem safe_refuseStaleCheckpoint (claim : RunLeaseClaim) (precedence : Bool) :
    Safe hasher deployment worker (refuseStaleCheckpoint claim precedence) world := by
  unfold refuseStaleCheckpoint
  simp only [Program.bind_eq_bind, Program.discard_eq_bind]
  split_ifs
  · exact safe_bind (safe_run _) fun _ _ _ ↦ safe_done _
  · refine safe_bind (safe_run _) fun outcome _ _ ↦ ?_
    split_ifs
    · exact safe_bind (safe_requireRun _) fun _ _ _ ↦ safe_markCancelled _ _ _
    · exact safe_done _

/-- Every registered runtime is configured as the deployment is. -/
def Deploys (deployment : Deployment) : Prop :=
  ∀ agentId agentVersion registration,
    manager.registry agentId agentVersion = some registration →
      deployment.Configures registration.loop

variable {manager}

theorem Deploys.registrationFor (hdeploys : manager.Deploys deployment) {run : RunRecord}
    {registration : RuntimeRegistration} (hok : manager.registrationFor run = .ok registration) :
    deployment.Configures registration.loop := by
  unfold RuntimeManager.registrationFor at hok
  split at hok
  · cases hok
  · next found hfound =>
    split_ifs at hok
    exact Except.ok.inj hok ▸ hdeploys _ _ _ hfound

theorem safe_executeRun (hdeploys : manager.Deploys deployment) (claim : RunLeaseClaim)
    (precedence : Bool) :
    Safe hasher deployment worker (manager.executeRun claim precedence) world := by
  unfold executeRun
  simp only [Program.bind_eq_bind, Program.throw_eq_raise, Program.pure_eq_done]
  cases hregistration : manager.registrationFor claim.run with
  | error failure => exact safe_raise failure
  | ok registration =>
    have hloop := hdeploys.registrationFor hregistration
    refine Program.wp_try _ (safe_run _) fun loaded _ _ _ ↦ ?_
    split
    · exact safe_bind (safe_refuseStaleCheckpoint _ _) fun _ _ _ ↦ safe_done _
    · exact safe_raise _
    · exact safe_bind (safe_runRuntime _ hloop _) fun _ _ _ ↦ safe_done _

theorem safe_commitResult (claim : RunLeaseClaim) (response : RuntimeResponse)
    (state : RuntimeState) :
    Safe hasher deployment worker (commitResult claim response state) world := by
  unfold commitResult
  simp only [Program.bind_eq_bind]
  refine safe_bind (safe_run _) fun outcome _ _ ↦ ?_
  split_ifs
  · exact safe_bind (safe_requireRun _) fun _ _ _ ↦ safe_markCancelled _ _ _
  · exact safe_done _

theorem safe_markPending (claim : RunLeaseClaim) :
    Safe hasher deployment worker (markPending claim) world := by
  unfold markPending
  simp only [Program.discard_eq_bind]
  exact safe_bind (safe_run _) fun _ _ _ ↦ safe_done _

theorem safe_commitFailure (claim : RunLeaseClaim) (run : RunRecord) (failure : Failure) :
    Safe hasher deployment worker (manager.commitFailure claim run failure) world := by
  unfold commitFailure
  simp only [Program.bind_eq_bind]
  refine safe_bind (safe_requireRun _) fun latest _ _ ↦ ?_
  split_ifs
  · exact safe_markCancelled _ _ _
  all_goals
    refine safe_bind (safe_run _) fun outcome _ _ ↦ ?_
    split_ifs
    · exact safe_bind (safe_requireRun _) fun _ _ _ ↦ safe_markCancelled _ _ _
    · exact safe_done _

theorem safe_concludeFailure (claim : RunLeaseClaim) (run : RunRecord) (precedence : Bool)
    (failure : Failure) :
    Safe hasher deployment worker (manager.concludeFailure claim run precedence failure) world := by
  unfold concludeFailure
  simp only [Program.bind_eq_bind, Program.pure_eq_done]
  refine safe_bind (safe_ask rfl fun _ _ ↦ id) fun lost _ _ ↦ ?_
  split_ifs
  · exact safe_done _
  · split
    · exact safe_markPending _
    · split_ifs
      · exact safe_markPending _
      · exact safe_commitFailure _ _ _

theorem safe_reconcileBeforeCancelling (claim : RunLeaseClaim) :
    Safe hasher deployment worker (reconcileBeforeCancelling claim) world := by
  unfold reconcileBeforeCancelling
  split_ifs
  · exact safe_done _
  · exact safe_done _
  · exact safe_ask rfl fun _ _ ↦ id

/-- A whole attempt keeps the protocol. -/
theorem safe_executeOwnedRun (hdeploys : manager.Deploys deployment) (claim : RunLeaseClaim) :
    Safe hasher deployment worker (manager.executeOwnedRun claim) world := by
  unfold executeOwnedRun
  simp only [Program.bind_eq_bind, Program.pure_eq_done]
  refine safe_bind (safe_ask rfl fun _ _ ↦ id) fun lost _ _ ↦ ?_
  split_ifs
  · exact safe_done _
  refine safe_bind (safe_reconcileBeforeCancelling _) fun precedence _ _ ↦ ?_
  split_ifs
  · exact safe_markCancelled _ _ _
  refine Program.wp_try _ (safe_executeRun hdeploys _ _) fun result _ _ _ ↦ ?_
  split
  · exact safe_concludeFailure _ _ _ _
  · exact safe_done _
  · refine safe_bind (safe_ask rfl fun _ _ ↦ id) fun lost _ _ ↦ ?_
    split_ifs
    · exact safe_done _
    refine Program.wp_try _ (safe_commitResult _ _ _) fun committed _ _ _ ↦ ?_
    split
    · exact safe_done _
    · exact safe_concludeFailure _ _ _ _

end RuntimeManager

end Protocol

/-! ### The whole system -/

section Runs

variable (hasher : Hasher) (manager : RuntimeManager) (deployment : Deployment)

/-- The accounts are in order and every worker may go on. -/
def SystemAccounted (system : System) : Prop :=
  Program.Sound (accounting hasher deployment) system.workers system.world

variable {hasher manager deployment}

theorem rely_of_calm {world : World} {db : Database}
    {failing : String × String → ExternalActionRow → Prop}
    (hcalm : Calm failing world.db db) (worker : Nat) :
    (accounting hasher deployment).rely worker world { world with db := db } :=
  ⟨evolves_of_calm hcalm, rfl⟩

/-- A call of another process is calm. -/
theorem calm_of_control {db : Database} {reading : Reading} {call : Call}
    (hcontrol : isControlCall call = true) :
    Calm (fun _ _ ↦ False) db (Request.apply hasher db ⟨reading, call⟩) := by
  obtain hsame | ⟨other, hother, -⟩ := ledger_of_apply hasher db ⟨reading, call⟩
  · exact calm_of_sameLedger hsame
  · have hcall : call = .workflow other := hother
    rw [hcall] at hcontrol
    cases hcontrol

theorem evolves_applyEffect (world : World) (index : Nat) :
    Evolves world (world.applyEffect index) :=
  ⟨(Evolves.refl world).rows, List.Subset.refl _, List.Subset.refl _⟩

theorem freshResponse_of_freshTokens {system : System} {worker : Nat} {response : Response}
    (hfresh : FreshTokens system (.work worker response)) :
    FreshResponse system.world response := by
  cases response with
  | store reading fault => exact hfresh
  | _ => trivial

/-- One event keeps the accounts, and the world evolves. -/
theorem systemAccounted_next (hdeploys : manager.Deploys deployment) (system : System)
    (label : Label) (hsystem : SystemAccounted hasher deployment system)
    (hfresh : FreshTokens system label) :
    SystemAccounted hasher deployment ((systemMachine hasher manager).next system label) ∧
      Evolves system.world ((systemMachine hasher manager).next system label).world := by
  have haccounted : Accounted deployment system.world := hsystem.1
  cases label with
  | work worker response =>
    show SystemAccounted hasher deployment (system.work hasher worker response) ∧
      Evolves system.world (system.work hasher worker response).world
    unfold System.work
    split
    · next op hscope next hworker =>
      split
      · next answer world hperform =>
        have hstep : (accounting hasher deployment).step worker system.world op answer world :=
          ⟨response, hperform, freshResponse_of_freshTokens hfresh⟩
        have hwp := hsystem.2 worker _ hworker
        obtain ⟨-, hguar, -⟩ := hwp _ ((accounting hasher deployment).rely_refl _ _) hsystem.1
          answer world hstep
        exact ⟨hsystem.step hworker hstep, hguar.1⟩
      · exact ⟨hsystem, .refl _⟩
    · exact ⟨hsystem, .refl _⟩
  | crash worker => exact ⟨hsystem.remove, .refl _⟩
  | claim reading ownerId duration =>
    show SystemAccounted hasher deployment (system.claim manager reading ownerId duration) ∧
      Evolves system.world (system.claim manager reading ownerId duration).world
    unfold System.claim
    split
    · next claim db hclaim =>
      have hcalm : Calm (fun _ _ ↦ False) system.world.db db :=
        calm_of_sameLedger (onlyRunTables_of_claimNextRun hclaim).1
      have hkept := hsystem.outside (haccounted.calm hcalm fun _ _ ↦ False.elim)
        (rely_of_calm hcalm)
      exact ⟨hkept.add (RuntimeManager.safe_executeOwnedRun hdeploys claim),
        evolves_of_calm hcalm⟩
    · next db hclaim =>
      have hcalm : Calm (fun _ _ ↦ False) system.world.db db :=
        calm_of_sameLedger (onlyRunTables_of_claimNextRun hclaim).1
      exact ⟨hsystem.outside (haccounted.calm hcalm fun _ _ ↦ False.elim) (rely_of_calm hcalm),
        evolves_of_calm hcalm⟩
    · exact ⟨hsystem, .refl _⟩
  | control reading call =>
    show SystemAccounted hasher deployment
        (if isControlCall call then
          system.withDatabase (Request.apply hasher system.world.db ⟨reading, call⟩)
        else system) ∧ Evolves system.world
        (if isControlCall call then
          system.withDatabase (Request.apply hasher system.world.db ⟨reading, call⟩)
        else system).world
    split_ifs with hcontrol
    · have hcalm : Calm (fun _ _ ↦ False) system.world.db
          (Request.apply hasher system.world.db ⟨reading, call⟩) := calm_of_control hcontrol
      exact ⟨hsystem.outside (haccounted.calm hcalm fun _ _ ↦ False.elim) (rely_of_calm hcalm),
        evolves_of_calm hcalm⟩
    · exact ⟨hsystem, .refl _⟩
  | applyEffect index =>
    have hevolves := evolves_applyEffect system.world index
    refine ⟨hsystem.outside (haccounted.calls (callEvolves_applyEffect _ _)) fun worker ↦ ?_,
      hevolves⟩
    exact ⟨hevolves, ownCalls_applyEffect _ _ _⟩

theorem systemAccounted_init : SystemAccounted hasher deployment System.init :=
  ⟨accounted_empty deployment, fun _ _ hworker ↦ by cases hworker⟩

theorem systemAccounted_run (hdeploys : manager.Deploys deployment) {labels : List Label}
    (hfresh : (systemMachine hasher manager).Admits FreshTokens System.init labels) :
    SystemAccounted hasher deployment
      ((systemMachine hasher manager).run System.init labels) :=
  (systemMachine hasher manager).invariant_run (SystemAccounted hasher deployment)
    (fun system label hsystem hlabel ↦
      (systemAccounted_next hdeploys system label hsystem hlabel).1)
    systemAccounted_init hfresh

/-! ### Bounded dispatch -/

/-- The entries of a provider for one action are numbered differently within its count. -/
theorem entries_le_dispatchCount {world : World} (haccounted : Accounted deployment world)
    {key : String × String} {row : ExternalActionRow}
    (hfind : world.db.externalActions.find key = some row) :
    (world.calls.filter fun call ↦ call.action = key).length ≤ row.dispatchCount := by
  have hentries (call : ProviderCall) (hmem : call ∈ world.calls.filter fun call ↦
      call.action = key) : call ∈ world.calls ∧ call.action = key := by
    simpa using hmem
  have hnumbers : ((world.calls.filter fun call ↦ call.action = key).map
      ProviderCall.dispatch).Nodup := by
    refine List.Nodup.map_on (fun first hfirst second hsecond hdispatch ↦ ?_)
      (haccounted.calls_nodup.of_map _ |>.filter _)
    obtain ⟨hfirst, hfirstKey⟩ := hentries first hfirst
    obtain ⟨hsecond, hsecondKey⟩ := hentries second hsecond
    exact List.inj_on_of_nodup_map haccounted.calls_nodup hfirst hsecond
      (Prod.ext (hfirstKey.trans hsecondKey.symm) hdispatch)
  have hsubset : ((world.calls.filter fun call ↦ call.action = key).map
      ProviderCall.dispatch).toFinset ⊆ Finset.Icc 1 row.dispatchCount := by
    intro dispatch hdispatch
    obtain ⟨call, hmem, rfl⟩ := List.mem_map.mp (List.mem_toFinset.mp hdispatch)
    obtain ⟨hcall, hkey⟩ := hentries call hmem
    obtain ⟨counted, hcounted⟩ := haccounted.counted _ (haccounted.spent call hcall)
    have hfound : world.db.externalActions.find key = some counted := hkey ▸ hcounted.find
    obtain rfl := Option.some.inj (hfound.symm.trans hfind)
    exact Finset.mem_Icc.mpr ⟨hcounted.pos, hcounted.le⟩
  calc (world.calls.filter fun call ↦ call.action = key).length
      = ((world.calls.filter fun call ↦ call.action = key).map
          ProviderCall.dispatch).toFinset.card := by
        rw [List.toFinset_card_of_nodup hnumbers, List.length_map]
    _ ≤ (Finset.Icc 1 row.dispatchCount).card := Finset.card_le_card hsubset
    _ = row.dispatchCount := by rw [Nat.card_Icc, Nat.add_sub_cancel]

/-- A request carries the columns of its action. -/
theorem externalActionRequest_columns {action : ExternalActionRecord}
    {request : ExternalActionRequest} (hrequest : externalActionRequest action = .ok request) :
    request.actionId = action.actionId ∧ request.idempotencyKey = action.idempotencyKey ∧
      Json.obj request.arguments = action.argumentsJson := by
  unfold externalActionRequest at hrequest
  split at hrequest
  · next arguments harguments =>
    split_ifs at hrequest
    exact Except.ok.inj hrequest ▸ ⟨rfl, rfl, harguments.symm⟩
  · cases hrequest

theorem evolves_run (hdeploys : manager.Deploys deployment) {system : System}
    {labels : List Label} (hsystem : SystemAccounted hasher deployment system)
    (hfresh : (systemMachine hasher manager).Admits FreshTokens system labels) :
    Evolves system.world ((systemMachine hasher manager).run system labels).world :=
  (systemMachine hasher manager).stable_run (SystemAccounted hasher deployment)
    (fun before after ↦ Evolves before.world after.world) (fun _ ↦ .refl _)
    (fun _ _ _ hfirst hsecond ↦ hfirst.trans hsecond)
    (fun system label hsystem hlabel ↦
      (systemAccounted_next hdeploys system label hsystem hlabel).1)
    (fun system label hsystem hlabel ↦
      (systemAccounted_next hdeploys system label hsystem hlabel).2)
    hsystem hfresh

/-- In every history of a deployment, the provider is entered for an action at most as often as its
row counts dispatches, which is at most `maxDispatches` and at most once for an unsafe action. Each
entry has a dispatch number of its own, whose `dispatch_started` event was committed before; it goes
to the provider account that the action was prepared for and carries the action's id, key and
arguments, which never change. -/
theorem dispatches_are_bounded (hdeploys : manager.Deploys deployment) (labels : List Label)
    (hfresh : (systemMachine hasher manager).Admits FreshTokens System.init labels) :
    let world := ((systemMachine hasher manager).run System.init labels).world
    (∀ key row, world.db.externalActions.find key = some row →
      (world.calls.filter fun call ↦ call.action = key).length ≤ row.dispatchCount ∧
        row.dispatchCount ≤ deployment.maxDispatches ∧
        (row.retryMode = .unsafeRetry → row.dispatchCount ≤ 1)) ∧
    (world.calls.map ProviderCall.key).Nodup ∧
    (∀ call ∈ world.calls, ∃ row, world.db.externalActions.find call.action = some row ∧
      (∃ event ∈ world.db.workflowEvents.take call.logged,
        IsDispatchStarted event call.action row.actionId call.dispatch) ∧
      call.request.actionId = row.actionId ∧
      call.request.idempotencyKey = row.idempotencyKey ∧
      Json.obj call.request.arguments = row.argumentsJson ∧
      (deployment.route call.providerName).map ExternalActionProvider.providerIdentity =
        some row.providerIdentity) ∧
    ∀ earlier more, labels = earlier ++ more → ∀ key row,
      ((systemMachine hasher manager).run System.init earlier).world.db.externalActions.find key =
        some row →
      ∃ next, world.db.externalActions.find key = some next ∧ next.actionId = row.actionId ∧
        externalActionIdentity next = externalActionIdentity row := by
  intro world
  have haccounted : Accounted deployment world := (systemAccounted_run hdeploys hfresh).1
  refine ⟨fun key row hfind ↦ ?_, haccounted.calls_nodup, fun call hmem ↦ ?_,
    fun earlier more hlabels key row hfind ↦ ?_⟩
  · have hrow := haccounted.rows key row hfind
    exact ⟨entries_le_dispatchCount haccounted hfind, hrow.bounded, hrow.once⟩
  · obtain ⟨row, hrow⟩ := haccounted.entered call hmem
    obtain ⟨hactionId, hkey, harguments⟩ := externalActionRequest_columns hrow.request
    exact ⟨row, hrow.find, hrow.logged, hactionId, hkey, harguments, hrow.identity⟩
  · subst hlabels
    obtain ⟨hearlier, hmore⟩ := ((systemMachine hasher manager).admits_append _ _ _ _).mp hfresh
    have hevolves := evolves_run hdeploys (systemAccounted_run hdeploys hearlier) hmore
    rw [← Machine.run_append] at hevolves
    obtain ⟨next, hnext, hrow⟩ := hevolves.rows key row hfind
    exact ⟨next, hnext, hrow.actionId, hrow.identity⟩

end Runs

/-- The deployment of the sample server. -/
def sampleDeployment : Deployment where
  maxDispatches := 2
  maxDispatches_pos := by decide
  dispatcher := sampleLoop.dispatcher

theorem sampleManager_deploys : sampleManager.Deploys sampleDeployment := by
  intro agentId agentVersion registration hregistration
  obtain rfl := Option.some.inj hregistration
  exact ⟨rfl, rfl⟩

/-- The first call of the provider is ambiguous and is retried. -/
def sampleRetry : List Label :=
  sampleDispatch ++ List.replicate 3 (storeStep 0 "b") ++
    [.work 0 .noted, .applyEffect 0, .work 0 (.provider (.error .ambiguous)), storeStep 0 "b"] ++
    List.replicate 3 (storeStep 0 "c") ++ [.work 0 .noted]

set_option maxRecDepth 10000 in
/-- The retried action was dispatched twice, each time with one entry of the provider. -/
theorem retried_action_is_bounded :
    ∃ row, ((systemMachine sampleHasher sampleManager).run System.init
        sampleRetry).world.db.externalActions.find ("run_1", "call-0001") = some row ∧
      (((systemMachine sampleHasher sampleManager).run System.init
        sampleRetry).world.calls.filter
          fun call ↦ call.action = ("run_1", "call-0001")).length = 2 ∧
      2 ≤ row.dispatchCount ∧ row.dispatchCount ≤ 2 := by
  have hfresh : (systemMachine sampleHasher sampleManager).Admits FreshTokens System.init
      sampleRetry := by decide +kernel
  obtain ⟨hrows, -⟩ := dispatches_are_bounded sampleManager_deploys sampleRetry hfresh
  have hlength : (((systemMachine sampleHasher sampleManager).run System.init
      sampleRetry).world.calls.filter
        fun call ↦ call.action = ("run_1", "call-0001")).length = 2 := by decide +kernel
  have hsome : (((systemMachine sampleHasher sampleManager).run System.init
      sampleRetry).world.db.externalActions.find ("run_1", "call-0001")).isSome = true := by
    decide +kernel
  obtain ⟨row, hfind⟩ := Option.isSome_iff_exists.mp hsome
  obtain ⟨hentries, hbounded, -⟩ := hrows _ row hfind
  exact ⟨row, hfind, hlength, hlength ▸ hentries, hbounded⟩

end AgentRuntime.Execution
