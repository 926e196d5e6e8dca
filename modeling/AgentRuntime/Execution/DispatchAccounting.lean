import Mathlib.Data.List.Infix
import AgentRuntime.Store.ActionTransitions
import AgentRuntime.Execution.System

/-!
# Accounting for dispatches

Each dispatch of an action is committed by one worker, under one number and a token of its own;
each call of a provider spends such a commit. `Accounted` is the invariant that says so, over the
database and the record of what happened around it. `Evolves` is what every step keeps: an action
keeps its identity, its count never falls, and a token that was drawn before never comes back.

`accounting` is the resulting protocol. A worker relies on `Evolves` and on being the only one that
adds to its own provider calls; the section on single operations shows what each of them needs in
order to keep the invariant: a calm operation nothing, a retry a count below the maximum, the entry
of a provider a commit that is not spent, and a recorded failure a definitive answer.
-/

set_option autoImplicit false
set_option relaxedAutoImplicit false

namespace AgentRuntime.Execution

open Library Store

/-- The coordinator configuration that every server of a deployment shares. -/
structure Deployment where
  maxDispatches : Nat
  maxDispatches_pos : 1 ≤ maxDispatches
  dispatcher : Option ProviderRegistry

/-- The provider that a name leads to. -/
def Deployment.route (deployment : Deployment) (providerName : String) :
    Option ExternalActionProvider :=
  deployment.dispatcher.bind fun registry ↦ registry providerName

/-- The provider of the action cannot honour the idempotency that its retry mode needs. -/
def Deployment.Unsupported (deployment : Deployment) (row : ExternalActionRow) : Prop :=
  row.retryMode = .providerIdempotent ∧
    ∀ provider, deployment.route row.providerName = some provider →
      provider.supportsIdempotency = false

/-! ### Commits and calls -/

/-- The action and the number of a dispatch. -/
def DispatchCommit.key (commit : DispatchCommit) : (String × String) × Nat :=
  ((commit.runId, commit.stepId), commit.dispatch)

/-- The action that a provider was called for. -/
def ProviderCall.action (call : ProviderCall) : String × String :=
  (call.request.runId, call.request.stepId)

/-- The action and the number of the dispatch that a provider was called for. -/
def ProviderCall.key (call : ProviderCall) : (String × String) × Nat := (call.action, call.dispatch)

/-- The commit that a call spends. -/
def ProviderCall.commit (call : ProviderCall) : DispatchCommit :=
  ⟨call.worker, call.request.runId, call.request.stepId, call.dispatch⟩

/-- The event that records a dispatch of an action. -/
structure IsDispatchStarted (event : EventRow) (action : String × String) (actionId : String)
    (dispatch : Nat) : Prop where
  runId : event.runId = action.1
  eventType : event.eventType = "external_action.dispatch_started"
  actionId : event.payload.get? "action_id" = some (.str actionId)
  stepId : event.payload.get? "step_id" = some (.str action.2)
  dispatch : event.payload.get? "dispatch_count" = some (Json.nat dispatch)

/-- A call of a provider stands on the action's row and on a logged dispatch. -/
structure Entered (deployment : Deployment) (db : Database) (call : ProviderCall)
    (row : ExternalActionRow) : Prop where
  find : db.externalActions.find call.action = some row
  request : externalActionRequest (.of call.request.runId call.request.stepId row) =
    .ok call.request
  providerName : call.providerName = row.providerName
  identity : (deployment.route call.providerName).map ExternalActionProvider.providerIdentity =
    some row.providerIdentity
  supported : ¬ deployment.Unsupported row
  logged : ∃ event ∈ db.workflowEvents.take call.logged,
    IsDispatchStarted event call.action row.actionId call.dispatch

/-- A committed dispatch is one of those that the action's row counts. -/
structure Counted (db : Database) (commit : DispatchCommit) (row : ExternalActionRow) : Prop where
  find : db.externalActions.find (commit.runId, commit.stepId) = some row
  pos : 1 ≤ commit.dispatch
  le : commit.dispatch ≤ row.dispatchCount
  logged : ∃ event ∈ db.workflowEvents,
    IsDispatchStarted event (commit.runId, commit.stepId) row.actionId commit.dispatch

/-- The provider denied the current dispatch of the action, or could not be asked at all. -/
def Denied (deployment : Deployment) (calls : List ProviderCall) (key : String × String)
    (row : ExternalActionRow) : Prop :=
  (∃ call ∈ calls, call.key = (key, row.dispatchCount) ∧ call.isDefinitive = true) ∨
    deployment.Unsupported row

/-- What the accounts say about one row. -/
structure RowAccounted (deployment : Deployment) (tokens : List String)
    (calls : List ProviderCall) (key : String × String) (row : ExternalActionRow) : Prop where
  prepared : row.status = .prepared → NeverDispatched row
  bounded : row.dispatchCount ≤ deployment.maxDispatches
  once : row.retryMode = .unsafeRetry → row.dispatchCount ≤ 1
  token : ∀ token, row.dispatchToken = some token → token ∈ tokens
  failed : row.status = .failed → Denied deployment calls key row

/-- The accounts of the whole world are in order. -/
structure Accounted (deployment : Deployment) (world : World) : Prop where
  rows : ∀ key row, world.db.externalActions.find key = some row →
    RowAccounted deployment world.tokens world.calls key row
  counted : ∀ commit ∈ world.commits, ∃ row, Counted world.db commit row
  commits_nodup : (world.commits.map DispatchCommit.key).Nodup
  spent : ∀ call ∈ world.calls, call.commit ∈ world.commits
  entered : ∀ call ∈ world.calls, ∃ row, Entered deployment world.db call row
  calls_nodup : (world.calls.map ProviderCall.key).Nodup
  denied : ∀ call ∈ world.calls, call.isDefinitive = true → call.applied = false

theorem accounted_empty (deployment : Deployment) : Accounted deployment World.empty where
  rows key row hfind := by cases hfind
  counted commit hmem := by cases hmem
  commits_nodup := List.nodup_nil
  spent call hmem := by cases hmem
  entered call hmem := by cases hmem
  calls_nodup := List.nodup_nil
  denied call hmem := by cases hmem

/-! ### What every step keeps -/

/-- A row as it may look later. -/
structure RowEvolves (tokens : List String) (row next : ExternalActionRow) : Prop where
  actionId : next.actionId = row.actionId
  identity : externalActionIdentity next = externalActionIdentity row
  count : row.dispatchCount ≤ next.dispatchCount
  token : ∀ token ∈ tokens, next.dispatchToken = some token →
    row.dispatchToken = some token ∧ next.dispatchCount = row.dispatchCount

theorem RowEvolves.refl (tokens : List String) (row : ExternalActionRow) :
    RowEvolves tokens row row :=
  ⟨rfl, rfl, le_rfl, fun _ _ htoken ↦ ⟨htoken, rfl⟩⟩

theorem RowEvolves.trans {tokens more : List String} {row next last : ExternalActionRow}
    (hfirst : RowEvolves tokens row next) (hsecond : RowEvolves more next last)
    (hmore : tokens ⊆ more) : RowEvolves tokens row last where
  actionId := hsecond.actionId.trans hfirst.actionId
  identity := hsecond.identity.trans hfirst.identity
  count := hfirst.count.trans hsecond.count
  token token hmem htoken := by
    obtain ⟨hnext, hcount⟩ := hsecond.token token (hmore hmem) htoken
    obtain ⟨hrow, hcount'⟩ := hfirst.token token hmem hnext
    exact ⟨hrow, hcount.trans hcount'⟩

theorem rowEvolves_of_sameDispatches {tokens : List String} {row next : ExternalActionRow}
    (hsame : SameDispatches row next) : RowEvolves tokens row next where
  actionId := hsame.actionId
  identity := hsame.identity
  count := hsame.count.ge
  token _ _ htoken := ⟨hsame.token ▸ htoken, hsame.count⟩

/-- The world as it may look later. -/
structure Evolves (before after : World) : Prop where
  rows : ∀ key row, before.db.externalActions.find key = some row →
    ∃ next, after.db.externalActions.find key = some next ∧ RowEvolves before.tokens row next
  tokens : before.tokens ⊆ after.tokens
  commits : before.commits ⊆ after.commits

theorem Evolves.refl (world : World) : Evolves world world where
  rows _ row hfind := ⟨row, hfind, .refl _ row⟩
  tokens := List.Subset.refl _
  commits := List.Subset.refl _

theorem Evolves.trans {first second third : World} (hfirst : Evolves first second)
    (hsecond : Evolves second third) : Evolves first third where
  rows key row hfind := by
    obtain ⟨next, hnext, hrow⟩ := hfirst.rows key row hfind
    obtain ⟨last, hlast, hrow'⟩ := hsecond.rows key next hnext
    exact ⟨last, hlast, hrow.trans hrow' hfirst.tokens⟩
  tokens := List.Subset.trans hfirst.tokens hsecond.tokens
  commits := List.Subset.trans hfirst.commits hsecond.commits

/-- The provider calls of one worker, each with the commit it spends and its answer. -/
def World.ownCalls (world : World) (worker : Nat) :
    List (DispatchCommit × Option (Except Failure Json)) :=
  (world.calls.filter fun call ↦ call.worker == worker).map fun call ↦ (call.commit, call.answer)

/-- A response draws no dispatch token that was drawn before. -/
def FreshResponse (world : World) : Response → Prop
  | .store reading _ => "dispatch_" ++ reading.uuid 0 ∉ world.tokens
  | _ => True

/-- The protocol of the workers. -/
def accounting (hasher : Hasher) (deployment : Deployment) :
    Protocol Nat Op.Answer Failure World where
  step worker before op answer after :=
    ∃ response, before.perform hasher worker op response = some (answer, after) ∧
      FreshResponse before response
  inv := Accounted deployment
  rely worker before after :=
    Evolves before after ∧ after.ownCalls worker = before.ownCalls worker
  guar worker before after :=
    Evolves before after ∧ ∀ other, worker ≠ other → after.ownCalls other = before.ownCalls other
  rely_refl _ world := ⟨.refl world, rfl⟩
  rely_trans _ _ _ _ hfirst hsecond :=
    ⟨hfirst.1.trans hsecond.1, hsecond.2.trans hfirst.2⟩
  guar_rely _ other _ _ hother hguar := ⟨hguar.1, hguar.2 other hother⟩

/-! ### Changes of the database alone -/

theorem rowAccounted_of_neverDispatched {deployment : Deployment} {tokens : List String}
    {calls : List ProviderCall} {key : String × String} {row : ExternalActionRow}
    (hrow : NeverDispatched row) : RowAccounted deployment tokens calls key row where
  prepared _ := hrow
  bounded := hrow.count ▸ Nat.zero_le _
  once _ := hrow.count ▸ Nat.zero_le _
  token token htoken := by
    rw [hrow.token] at htoken
    cases htoken
  failed hfailed := by
    rw [hrow.status] at hfailed
    cases hfailed

theorem unsupported_congr {deployment : Deployment} {row next : ExternalActionRow}
    (hidentity : externalActionIdentity next = externalActionIdentity row) :
    deployment.Unsupported next ↔ deployment.Unsupported row := by
  have hmode : next.retryMode = row.retryMode :=
    congrArg ExternalActionIdentity.retryMode hidentity
  have hname : next.providerName = row.providerName :=
    congrArg ExternalActionIdentity.providerName hidentity
  unfold Deployment.Unsupported
  rw [hmode, hname]

theorem rowAccounted_of_sameDispatches {deployment : Deployment} {tokens : List String}
    {calls : List ProviderCall} {key : String × String} {row next : ExternalActionRow}
    (hrow : RowAccounted deployment tokens calls key row) (hsame : SameDispatches row next)
    (hfailed : next.status = .failed →
      row.status = .failed ∨ Denied deployment calls key row) :
    RowAccounted deployment tokens calls key next where
  prepared hprepared := by
    have hnever := hrow.prepared (hsame.prepared hprepared)
    exact ⟨hprepared, hsame.count.trans hnever.count, hsame.token.trans hnever.token⟩
  bounded := hsame.count ▸ hrow.bounded
  once hunsafe := by
    have hmode : next.retryMode = row.retryMode :=
      congrArg ExternalActionIdentity.retryMode hsame.identity
    exact hsame.count ▸ hrow.once (hmode ▸ hunsafe)
  token token htoken := hrow.token token (hsame.token ▸ htoken)
  failed hstatus := by
    unfold Denied
    rw [unsupported_congr hsame.identity, hsame.count]
    exact (hfailed hstatus).elim hrow.failed id

/-- A request names the columns of an action that never change. -/
theorem externalActionRequest_congr {runId stepId : String} {row next : ExternalActionRow}
    (hactionId : next.actionId = row.actionId)
    (hidentity : externalActionIdentity next = externalActionIdentity row) :
    externalActionRequest (.of runId stepId next) =
      externalActionRequest (.of runId stepId row) := by
  have hfields : (next.tenantId, next.subjectId, next.workflowType, next.toolName,
      next.argumentsJson, next.idempotencyKey) = (row.tenantId, row.subjectId, row.workflowType,
      row.toolName, row.argumentsJson, row.idempotencyKey) :=
    congrArg (fun identity : ExternalActionIdentity ↦ (identity.tenantId, identity.subjectId,
      identity.workflowType, identity.toolName, identity.argumentsJson, identity.idempotencyKey))
      hidentity
  simp only [Prod.mk.injEq] at hfields
  obtain ⟨htenant, hsubject, htype, htool, harguments, hkey⟩ := hfields
  simp only [externalActionRequest, ExternalActionRecord.of, hactionId, htenant, hsubject, htype,
    htool, harguments, hkey]
  rfl

/-- A request is made for the action of its record. -/
theorem externalActionRequest_key {action : ExternalActionRecord} {request : ExternalActionRequest}
    (hrequest : externalActionRequest action = .ok request) :
    request.runId = action.runId ∧ request.stepId = action.stepId := by
  unfold externalActionRequest at hrequest
  split at hrequest
  · split_ifs at hrequest
    exact Except.ok.inj hrequest ▸ ⟨rfl, rfl⟩
  · cases hrequest

theorem Entered.evolve {deployment : Deployment} {world after : World} {call : ProviderCall}
    {row : ExternalActionRow} (hentered : Entered deployment world.db call row)
    (hevolves : Evolves world after)
    (hlog : world.db.workflowEvents <+: after.db.workflowEvents) :
    ∃ next, Entered deployment after.db call next := by
  obtain ⟨next, hnext, hrow⟩ := hevolves.rows _ _ hentered.find
  have hname : next.providerName = row.providerName :=
    congrArg ExternalActionIdentity.providerName hrow.identity
  have hidentity : next.providerIdentity = row.providerIdentity :=
    congrArg ExternalActionIdentity.providerIdentity hrow.identity
  obtain ⟨event, hmem, hstarted⟩ := hentered.logged
  refine ⟨next, hnext, ?_, hentered.providerName.trans hname.symm, ?_, ?_, event, ?_, ?_⟩
  · exact (externalActionRequest_congr hrow.actionId hrow.identity).trans hentered.request
  · exact hidentity ▸ hentered.identity
  · rw [unsupported_congr hrow.identity]
    exact hentered.supported
  · exact (List.IsPrefix.take hlog call.logged).subset hmem
  · exact hrow.actionId ▸ hstarted

theorem Counted.evolve {world after : World} {commit : DispatchCommit} {row : ExternalActionRow}
    (hcounted : Counted world.db commit row) (hevolves : Evolves world after)
    (hlog : world.db.workflowEvents <+: after.db.workflowEvents) :
    ∃ next, Counted after.db commit next := by
  obtain ⟨next, hnext, hrow⟩ := hevolves.rows _ _ hcounted.find
  obtain ⟨event, hmem, hstarted⟩ := hcounted.logged
  exact ⟨next, hnext, hcounted.pos, hcounted.le.trans hrow.count, event, hlog.subset hmem,
    hrow.actionId ▸ hstarted⟩

theorem evolves_of_calm {world : World} {db : Database}
    {failing : String × String → ExternalActionRow → Prop} (hcalm : Calm failing world.db db) :
    Evolves world { world with db := db } where
  rows key row hfind := by
    obtain ⟨next, hnext, hsame, -⟩ := hcalm.kept key row hfind
    exact ⟨next, hnext, rowEvolves_of_sameDispatches hsame⟩
  tokens := List.Subset.refl _
  commits := List.Subset.refl _

/-- A calm change of the database keeps the accounts, if it only fails what was denied. -/
theorem Accounted.calm {deployment : Deployment} {world : World} {db : Database}
    {failing : String × String → ExternalActionRow → Prop} (haccounted : Accounted deployment world)
    (hcalm : Calm failing world.db db)
    (hdenied : ∀ key row, failing key row → world.db.externalActions.find key = some row →
      Denied deployment world.calls key row) :
    Accounted deployment { world with db := db } where
  rows key next hnext := by
    cases hfind : world.db.externalActions.find key with
    | none => exact rowAccounted_of_neverDispatched (hcalm.fresh key next hfind hnext)
    | some row =>
      obtain ⟨same, hsame, hkept, hfailed⟩ := hcalm.kept key row hfind
      obtain rfl := Option.some.inj (hsame.symm.trans hnext)
      refine rowAccounted_of_sameDispatches (haccounted.rows key row hfind) hkept fun hstatus ↦ ?_
      exact (hfailed hstatus).imp_right fun hfailing ↦ hdenied key row hfailing hfind
  counted commit hmem := by
    obtain ⟨row, hrow⟩ := haccounted.counted commit hmem
    exact hrow.evolve (evolves_of_calm hcalm) hcalm.log
  commits_nodup := haccounted.commits_nodup
  spent := haccounted.spent
  entered call hmem := by
    obtain ⟨row, hrow⟩ := haccounted.entered call hmem
    exact hrow.evolve (evolves_of_calm hcalm) hcalm.log
  calls_nodup := haccounted.calls_nodup
  denied := haccounted.denied

/-! ### A dispatch -/

/-- The world after a worker committed the next dispatch of an action. -/
def World.afterDispatch (world : World) (worker : Nat) (reading : Reading)
    (runId stepId : String) (action : ExternalActionRow) (retry : Bool) : World :=
  { world with
    db := recordDispatch world.db reading runId stepId action retry
    commits := world.commits ++ [⟨worker, runId, stepId, action.dispatchCount + 1⟩]
    tokens := world.tokens ++ ["dispatch_" ++ reading.uuid 0] }

/-- What a dispatching call finds: a row that may be dispatched once more, and a new token. -/
structure Dispatchable (deployment : Deployment) (world : World) (reading : Reading)
    (runId stepId : String) (action : ExternalActionRow) : Prop where
  find : world.db.externalActions.find (runId, stepId) = some action
  bounded : action.dispatchCount < deployment.maxDispatches
  once : action.retryMode = .unsafeRetry → action.dispatchCount = 0
  fresh : "dispatch_" ++ reading.uuid 0 ∉ world.tokens

section Dispatch

variable {deployment : Deployment} {world : World} {worker : Nat} {reading : Reading}
  {runId stepId : String} {action : ExternalActionRow} {retry : Bool}

theorem evolves_of_dispatch (hready : Dispatchable deployment world reading runId stepId action) :
    Evolves world (world.afterDispatch worker reading runId stepId action retry) where
  rows key row hrow := by
    have hnext := recordDispatch_find world.db reading runId stepId action retry key
    by_cases hkey : key = (runId, stepId)
    · subst hkey
      rw [hready.find] at hrow
      obtain rfl := Option.some.inj hrow
      rw [if_pos rfl, hready.find] at hnext
      refine ⟨_, hnext, rfl, rfl, Nat.le_succ _, fun token hmem htoken ↦ ?_⟩
      have hdrawn : "dispatch_" ++ reading.uuid 0 = token := Option.some.inj htoken
      exact (hready.fresh (hdrawn ▸ hmem)).elim
    · rw [if_neg hkey, hrow] at hnext
      exact ⟨row, hnext, .refl _ row⟩
  tokens := List.subset_append_left _ _
  commits := List.subset_append_left _ _

theorem isDispatchStarted_dispatchStarted (db : Database) (reading : Reading)
    (runId stepId : String) (action : ExternalActionRow) (retry : Bool) :
    IsDispatchStarted (dispatchStarted db reading runId stepId action retry) (runId, stepId)
      action.actionId (action.dispatchCount + 1) :=
  ⟨rfl, rfl, rfl, rfl, rfl⟩

theorem Accounted.dispatch_le (haccounted : Accounted deployment world)
    (hfind : world.db.externalActions.find (runId, stepId) = some action)
    {commit : DispatchCommit} (hmem : commit ∈ world.commits)
    (hkey : (commit.runId, commit.stepId) = (runId, stepId)) :
    commit.dispatch ≤ action.dispatchCount := by
  obtain ⟨row, hrow⟩ := haccounted.counted commit hmem
  have hfound := hrow.find
  rw [hkey, hfind] at hfound
  exact Option.some.inj hfound ▸ hrow.le

/-- The accounts of the dispatched row. -/
theorem rowAccounted_of_dispatch {key : String × String}
    (hready : Dispatchable deployment world reading runId stepId action) :
    RowAccounted deployment (world.tokens ++ ["dispatch_" ++ reading.uuid 0]) world.calls key
      (dispatchedAction action ("dispatch_" ++ reading.uuid 0) (reading.utcNow 0)) where
  prepared hstatus := by cases hstatus
  bounded := hready.bounded
  once hunsafe := (Nat.succ_le_succ (hready.once hunsafe).le : _ ≤ 0 + 1)
  token token htoken := by
    have hdrawn : "dispatch_" ++ reading.uuid 0 = token := Option.some.inj htoken
    rw [← hdrawn]
    exact List.mem_append_right _ (List.mem_singleton_self _)
  failed hstatus := by cases hstatus

/-- A committed dispatch keeps the accounts. -/
theorem Accounted.dispatch (haccounted : Accounted deployment world)
    (hready : Dispatchable deployment world reading runId stepId action) :
    Accounted deployment (world.afterDispatch worker reading runId stepId action retry) where
  rows key row hrow := by
    have hnext := recordDispatch_find world.db reading runId stepId action retry key
    have hrow := hnext.symm.trans hrow
    by_cases hkey : key = (runId, stepId)
    · subst hkey
      rw [if_pos rfl, hready.find] at hrow
      exact Option.some.inj hrow ▸ rowAccounted_of_dispatch hready
    · rw [if_neg hkey] at hrow
      have hold := haccounted.rows key row hrow
      exact { hold with
        token := fun token htoken ↦ List.mem_append_left _ (hold.token token htoken) }
  counted commit hmem := by
    obtain hold | hnew := List.mem_append.mp hmem
    · obtain ⟨row, hrow⟩ := haccounted.counted commit hold
      exact hrow.evolve (evolves_of_dispatch hready) (List.prefix_append _ _)
    · obtain rfl := List.mem_singleton.mp hnew
      have hfind := recordDispatch_find world.db reading runId stepId action retry (runId, stepId)
      rw [if_pos rfl, hready.find] at hfind
      refine ⟨_, hfind, Nat.succ_le_succ (Nat.zero_le _), le_rfl, _, ?_,
        isDispatchStarted_dispatchStarted world.db reading runId stepId action retry⟩
      exact List.mem_append_right _ (List.mem_singleton_self _)
  commits_nodup := by
    show ((world.commits ++ [_]).map DispatchCommit.key).Nodup
    rw [List.map_append, List.map_singleton, ← List.concat_eq_append, List.nodup_concat]
    refine ⟨fun hmem ↦ ?_, haccounted.commits_nodup⟩
    obtain ⟨commit, hcommit, hkey⟩ := List.mem_map.mp hmem
    have hle := haccounted.dispatch_le hready.find hcommit (congrArg Prod.fst hkey)
    have heq : commit.dispatch = action.dispatchCount + 1 := congrArg Prod.snd hkey
    omega
  spent call hmem := List.mem_append_left _ (haccounted.spent call hmem)
  entered call hmem := by
    obtain ⟨row, hrow⟩ := haccounted.entered call hmem
    exact hrow.evolve (evolves_of_dispatch hready) (List.prefix_append _ _)
  calls_nodup := haccounted.calls_nodup
  denied := haccounted.denied

end Dispatch

/-! ### Calls of a provider -/

theorem mem_ownCalls (world : World) {call : ProviderCall} (hmem : call ∈ world.calls) :
    (call.commit, call.answer) ∈ world.ownCalls call.worker :=
  List.mem_map.mpr ⟨call, List.mem_filter.mpr ⟨hmem, beq_self_eq_true _⟩, rfl⟩

/-- The worker committed the dispatch and has not entered the provider with it. -/
structure Unspent (world : World) (commit : DispatchCommit) : Prop where
  committed : commit ∈ world.commits
  unspent : ∀ entry ∈ world.ownCalls commit.worker, entry.1 ≠ commit

/-- An unspent dispatch was not spent by another worker either. -/
theorem Accounted.key_ne_of_unspent {deployment : Deployment} {world : World}
    {commit : DispatchCommit} (haccounted : Accounted deployment world)
    (hunspent : Unspent world commit) {call : ProviderCall} (hmem : call ∈ world.calls) :
    call.key ≠ commit.key := by
  intro hkey
  have hcommit : call.commit = commit :=
    List.inj_on_of_nodup_map haccounted.commits_nodup (haccounted.spent call hmem)
      hunspent.committed hkey
  have hworker : call.worker = commit.worker := congrArg DispatchCommit.worker hcommit
  exact hunspent.unspent _ (hworker ▸ mem_ownCalls world hmem) hcommit

/-- The call that a worker enters now. -/
def World.entry (world : World) (worker : Nat) (providerName : String) (dispatch : Nat)
    (request : ExternalActionRequest) : ProviderCall :=
  ⟨worker, providerName, dispatch, request, world.db.workflowEvents.length, false, none⟩

/-- Entering a provider with an unspent dispatch keeps the accounts. -/
theorem Accounted.enter {deployment : Deployment} {world : World} {worker dispatch : Nat}
    {providerName : String} {request : ExternalActionRequest} {row : ExternalActionRow}
    (haccounted : Accounted deployment world)
    (hunspent : Unspent world ⟨worker, request.runId, request.stepId, dispatch⟩)
    (hfind : world.db.externalActions.find (request.runId, request.stepId) = some row)
    (hrequest : externalActionRequest (.of request.runId request.stepId row) = .ok request)
    (hname : providerName = row.providerName)
    (hidentity : (deployment.route providerName).map ExternalActionProvider.providerIdentity =
      some row.providerIdentity) (hsupported : ¬ deployment.Unsupported row) :
    Accounted deployment
      { world with
        calls := world.calls ++ [world.entry worker providerName dispatch request] } where
  rows key other hother := by
    have hold := haccounted.rows key other hother
    refine { hold with failed := fun hstatus ↦ ?_ }
    obtain ⟨call, hmem, hcall⟩ | hunsupported := hold.failed hstatus
    · exact .inl ⟨call, List.mem_append_left _ hmem, hcall⟩
    · exact .inr hunsupported
  counted := haccounted.counted
  commits_nodup := haccounted.commits_nodup
  spent call hmem := by
    obtain hold | hnew := List.mem_append.mp hmem
    · exact haccounted.spent call hold
    · obtain rfl := List.mem_singleton.mp hnew
      exact hunspent.committed
  entered call hmem := by
    obtain hold | hnew := List.mem_append.mp hmem
    · exact haccounted.entered call hold
    · obtain rfl := List.mem_singleton.mp hnew
      obtain ⟨counted, hcounted⟩ := haccounted.counted _ hunspent.committed
      obtain rfl : row = counted := Option.some.inj (hfind.symm.trans hcounted.find)
      obtain ⟨event, hevent, hstarted⟩ := hcounted.logged
      refine ⟨row, hfind, hrequest, hname, hidentity, hsupported, event, ?_, hstarted⟩
      exact (List.take_length).symm ▸ hevent
  calls_nodup := by
    show ((world.calls ++ [_]).map ProviderCall.key).Nodup
    rw [List.map_append, List.map_singleton, ← List.concat_eq_append, List.nodup_concat]
    refine ⟨fun hmem ↦ ?_, haccounted.calls_nodup⟩
    obtain ⟨call, hcall, hkey⟩ := List.mem_map.mp hmem
    exact haccounted.key_ne_of_unspent hunspent hcall hkey
  denied call hmem hdefinitive := by
    obtain hold | hnew := List.mem_append.mp hmem
    · exact haccounted.denied call hold hdefinitive
    · exact List.mem_singleton.mp hnew ▸ rfl

/-- A call as it may look later. -/
structure CallEvolves (call next : ProviderCall) : Prop where
  worker : next.worker = call.worker
  providerName : next.providerName = call.providerName
  dispatch : next.dispatch = call.dispatch
  request : next.request = call.request
  logged : next.logged = call.logged
  definitive : call.isDefinitive = true → next.isDefinitive = true
  denied : (call.isDefinitive = true → call.applied = false) → next.isDefinitive = true →
    next.applied = false

theorem CallEvolves.refl (call : ProviderCall) : CallEvolves call call :=
  ⟨rfl, rfl, rfl, rfl, rfl, id, id⟩

theorem CallEvolves.key {call next : ProviderCall} (hcall : CallEvolves call next) :
    next.key = call.key := by
  unfold ProviderCall.key ProviderCall.action
  rw [hcall.request, hcall.dispatch]

theorem CallEvolves.commit {call next : ProviderCall} (hcall : CallEvolves call next) :
    next.commit = call.commit := by
  unfold ProviderCall.commit
  rw [hcall.request, hcall.dispatch, hcall.worker]

theorem CallEvolves.entered {deployment : Deployment} {db : Database} {call next : ProviderCall}
    {row : ExternalActionRow} (hcall : CallEvolves call next)
    (hentered : Entered deployment db call row) : Entered deployment db next row := by
  obtain ⟨worker, providerName, dispatch, request, logged, applied, answer⟩ := next
  obtain ⟨rfl, rfl, rfl, rfl, rfl, -, -⟩ := hcall
  exact ⟨hentered.find, hentered.request, hentered.providerName, hentered.identity,
    hentered.supported, hentered.logged⟩

theorem exists_of_forall₂_left {α β : Type} {related : α → β → Prop} {left : List α}
    {right : List β} (hrelated : List.Forall₂ related left right) {value : α}
    (hmem : value ∈ left) : ∃ other ∈ right, related value other := by
  induction hrelated with
  | nil => cases hmem
  | cons hhead _ ih =>
    obtain rfl | hmem := List.mem_cons.mp hmem
    · exact ⟨_, List.mem_cons_self, hhead⟩
    · obtain ⟨other, hother, hvalue⟩ := ih hmem
      exact ⟨other, List.mem_cons_of_mem _ hother, hvalue⟩

theorem map_eq_of_forall₂ {α β : Type} {related : α → α → Prop} {view : α → β}
    (hview : ∀ value next, related value next → view next = view value) {left right : List α}
    (hrelated : List.Forall₂ related left right) : right.map view = left.map view := by
  induction hrelated with
  | nil => rfl
  | cons hhead _ ih => rw [List.map_cons, List.map_cons, ih, hview _ _ hhead]

/-- Answers and effects keep the accounts. -/
theorem Accounted.calls {deployment : Deployment} {world : World} {calls : List ProviderCall}
    (haccounted : Accounted deployment world)
    (hcalls : List.Forall₂ CallEvolves world.calls calls) :
    Accounted deployment { world with calls := calls } where
  rows key row hrow := by
    have hold := haccounted.rows key row hrow
    refine { hold with failed := fun hstatus ↦ ?_ }
    obtain ⟨call, hmem, hkey, hdefinitive⟩ | hunsupported := hold.failed hstatus
    · obtain ⟨next, hnext, hcall⟩ := exists_of_forall₂_left hcalls hmem
      exact .inl ⟨next, hnext, hcall.key.trans hkey, hcall.definitive hdefinitive⟩
    · exact .inr hunsupported
  counted := haccounted.counted
  commits_nodup := haccounted.commits_nodup
  spent next hnext := by
    obtain ⟨call, hmem, hcall⟩ := exists_of_forall₂_left hcalls.flip hnext
    exact CallEvolves.commit hcall ▸ haccounted.spent call hmem
  entered next hnext := by
    obtain ⟨call, hmem, hcall⟩ := exists_of_forall₂_left hcalls.flip hnext
    obtain ⟨row, hrow⟩ := haccounted.entered call hmem
    exact ⟨row, CallEvolves.entered hcall hrow⟩
  calls_nodup := by
    have hkeys : calls.map ProviderCall.key = world.calls.map ProviderCall.key :=
      map_eq_of_forall₂ (fun _ _ hcall ↦ CallEvolves.key hcall) hcalls
    exact hkeys.symm ▸ haccounted.calls_nodup
  denied next hnext := by
    obtain ⟨call, hmem, hcall⟩ := exists_of_forall₂_left hcalls.flip hnext
    exact CallEvolves.denied hcall (haccounted.denied call hmem)

/-- The calls after the worker's open call of a dispatch was answered. -/
def answeredCalls (calls : List ProviderCall) (worker : Nat) (runId stepId : String)
    (dispatch : Nat) (answer : Except Failure Json) : List ProviderCall :=
  calls.map fun call ↦
    if call.isOpen worker runId stepId dispatch then { call with answer := some answer } else call

theorem isOpen_iff {call : ProviderCall} {worker : Nat} {runId stepId : String} {dispatch : Nat} :
    call.isOpen worker runId stepId dispatch = true ↔
      call.commit = ⟨worker, runId, stepId, dispatch⟩ ∧ call.answer = none := by
  simp [ProviderCall.isOpen, ProviderCall.commit, and_assoc]

/-- An allowed answer lets calls evolve. -/
theorem callEvolves_answered {calls : List ProviderCall} {worker : Nat} {runId stepId : String}
    {dispatch : Nat} {answer : Except Failure Json}
    (hallowed : ∀ call ∈ calls, call.isOpen worker runId stepId dispatch = true →
      answerAllowed call answer = true) :
    List.Forall₂ CallEvolves calls (answeredCalls calls worker runId stepId dispatch answer) := by
  rw [answeredCalls, List.forall₂_map_right_iff]
  refine List.forall₂_same.mpr fun call hmem ↦ ?_
  split_ifs with hopen
  · refine ⟨rfl, rfl, rfl, rfl, rfl, fun hdefinitive ↦ ?_, fun _ hdefinitive ↦ ?_⟩
    · have hnone := (isOpen_iff.mp hopen).2
      simp [ProviderCall.isDefinitive, hnone] at hdefinitive
    · have hanswer := hallowed call hmem hopen
      unfold ProviderCall.isDefinitive at hdefinitive
      unfold answerAllowed at hanswer
      split at hdefinitive
      · next heq =>
        rw [Option.some.inj heq] at hanswer
        simpa using hanswer
      · cases hdefinitive
  · exact .refl call

/-- An effect lets calls evolve. -/
theorem callEvolves_applyEffect (world : World) (index : Nat) :
    List.Forall₂ CallEvolves world.calls (world.applyEffect index).calls := by
  refine List.forall₂_iff_get.mpr ⟨(List.length_modify ..).symm, fun position hleft hright ↦ ?_⟩
  simp only [World.applyEffect, List.get_eq_getElem, List.getElem_modify]
  split_ifs with hindex hdefinitive
  · exact .refl _
  · exact ⟨rfl, rfl, rfl, rfl, rfl, id, fun _ hdenied ↦ (hdefinitive hdenied).elim⟩
  · exact .refl _

/-- Only a worker's own answers change its calls. -/
theorem ownCalls_answered_of_ne {world : World} {worker other : Nat} {runId stepId : String}
    {dispatch : Nat} {answer : Except Failure Json} (hother : worker ≠ other) :
    ({ world with calls := answeredCalls world.calls worker runId stepId dispatch answer } :
      World).ownCalls other = world.ownCalls other := by
  unfold World.ownCalls answeredCalls
  rw [List.filter_map, List.map_map]
  have hworker : ((fun call : ProviderCall ↦ call.worker == other) ∘ fun call : ProviderCall ↦
      if call.isOpen worker runId stepId dispatch then { call with answer := some answer }
      else call) = fun call ↦ call.worker == other := by
    funext call
    simp only [Function.comp_apply]
    split_ifs <;> rfl
  rw [hworker]
  refine List.map_congr_left fun call hmem ↦ ?_
  have hclosed : ¬ call.isOpen worker runId stepId dispatch = true := by
    intro hopen
    have howner : call.worker = worker :=
      congrArg DispatchCommit.worker (isOpen_iff.mp hopen).1
    have hcall : call.worker = other := by simpa using (List.mem_filter.mp hmem).2
    exact hother (howner.symm.trans hcall)
  rw [Function.comp_apply, if_neg hclosed]

theorem ownCalls_applyEffect (world : World) (index worker : Nat) :
    (world.applyEffect index).ownCalls worker = world.ownCalls worker := by
  have hviews : (world.applyEffect index).calls.map
      (fun call ↦ (call.commit, call.answer)) =
        world.calls.map fun call ↦ (call.commit, call.answer) := by
    refine List.ext_getElem (by simp [World.applyEffect]) fun position hleft hright ↦ ?_
    simp only [World.applyEffect, List.getElem_map, List.getElem_modify]
    split_ifs <;> rfl
  have hown (calls : List ProviderCall) :
      (calls.filter fun call ↦ call.worker == worker).map
          (fun call ↦ (call.commit, call.answer)) =
        (calls.map fun call ↦ (call.commit, call.answer)).filter
          fun entry ↦ entry.1.worker == worker := by
    rw [List.filter_map]
    rfl
  unfold World.ownCalls
  rw [hown, hown, hviews]

/-! ### Single operations -/

/-- A store operation raises and changes nothing, or commits; a storage exception may follow the
commit. -/
theorem committed_of_perform {hasher : Hasher} {world after : World} {worker : Nat} {call : Call}
    {response : Response} {answer : Except Failure call.Reply}
    (hperform : world.perform hasher worker (.store call) response = some (answer, after)) :
    ∃ reading fault, response = .store reading fault ∧
      ((after = world ∧ ∃ failure, answer = .error failure) ∨
        ∃ reply db, call.perform hasher world.db reading = .ok (reply, db) ∧
          after = world.record worker call reply db ∧
          (answer = .ok reply ∨ ∃ message, answer = .error (.storage message))) := by
  cases response with
  | store reading fault =>
    refine ⟨reading, fault, rfl, ?_⟩
    have hperform : world.performStore hasher worker call reading fault = (answer, after) :=
      Option.some.inj hperform
    unfold World.performStore at hperform
    split at hperform
    · obtain ⟨rfl, rfl⟩ := Prod.mk.inj hperform
      exact .inl ⟨rfl, _, rfl⟩
    · split at hperform
      · obtain ⟨rfl, rfl⟩ := Prod.mk.inj hperform
        exact .inl ⟨rfl, _, rfl⟩
      · next reply db hok =>
        split at hperform
        · obtain ⟨rfl, rfl⟩ := Prod.mk.inj hperform
          exact .inr ⟨reply, db, hok, rfl, .inr ⟨_, rfl⟩⟩
        · obtain ⟨rfl, rfl⟩ := Prod.mk.inj hperform
          exact .inr ⟨reply, db, hok, rfl, .inl rfl⟩
  | _ => cases hperform

/-- The store calls that do not dispatch an action. -/
def callIsCalm : Call → Bool
  | .workflow call => call.isCalm
  | _ => true

/-- The action that a store call may fail. -/
def callFailing : Call → String × String → ExternalActionRow → Prop
  | .workflow call => call.failing
  | _ => fun _ _ ↦ False

theorem calm_of_call {hasher : Hasher} {db after : Database} {reading : Reading} {call : Call}
    {reply : call.Reply} (hok : call.perform hasher db reading = .ok (reply, after))
    (hcalm : callIsCalm call = true) : Calm (callFailing call) db after := by
  cases call with
  | run call => exact calm_of_sameLedger (onlyRunTables_of_run hok).1
  | workflow call => exact calm_of_workflow (workflowChange_of_perform hok) hcalm
  | memory call => exact calm_of_sameLedger (onlyMemory_of_memory hok).2

theorem record_of_calm {world : World} {worker : Nat} {call : Call} {reply : call.Reply}
    {after : Database} (hcalm : callIsCalm call = true) :
    world.record worker call reply after = { world with db := after } := by
  unfold World.record claimedDispatch
  split
  · rfl
  · next heq =>
    split at heq
    · cases hcalm
    · cases hcalm
    · cases heq

/-- The operations that touch neither dispatches nor providers. -/
def Op.isCalm : Op → Bool
  | .store call => callIsCalm call
  | .enterProvider .. | .awaitProvider .. => false
  | _ => true

/-- The action that an operation may fail. -/
def Op.failing : Op → String × String → ExternalActionRow → Prop
  | .store call => callFailing call
  | _ => fun _ _ ↦ False

theorem Op.isCalm_of_plain (op : Op) (hplain : op.plain = true) :
    op.isCalm = true ∧ ∀ key row, ¬ op.failing key row := by
  unfold Op.plain at hplain
  split at hplain
  · cases hplain
  · cases hplain
  · cases hplain
  · next call hbegin hretry hfailed =>
    cases call with
    | beginExternalActionDispatch => exact (hbegin _ _ _ _ rfl).elim
    | retryExternalActionDispatch => exact (hretry _ _ _ _ _ rfl).elim
    | finalizeExternalActionFailed => exact (hfailed _ _ _ _ _ _ rfl).elim
    | _ => exact ⟨rfl, fun _ _ ↦ id⟩
  · next hworkflow =>
    unfold Op.quiet at hplain
    split at hplain
    all_goals first | exact ⟨rfl, fun _ _ ↦ id⟩ | exact (hworkflow _ rfl).elim | cases hplain

section Operations

variable {hasher : Hasher} {deployment : Deployment} {worker : Nat} {before after : World}

theorem ownCalls_of_calls (hcalls : after.calls = before.calls) (worker : Nat) :
    after.ownCalls worker = before.ownCalls worker := by
  unfold World.ownCalls
  rw [hcalls]

/-- Without a new or an answered call, a step that evolves the world keeps every promise. -/
theorem guar_of_calls (hevolves : Evolves before after) (hcalls : after.calls = before.calls) :
    (accounting hasher deployment).guar worker before after :=
  ⟨hevolves, fun other _ ↦ ownCalls_of_calls hcalls other⟩

/-- A calm operation keeps the accounts and every provider call. -/
theorem accounted_of_calm {op : Op} {answer : Except Failure op.Answer}
    (hstep : (accounting hasher deployment).step worker before op answer after)
    (hcalm : op.isCalm = true) (haccounted : Accounted deployment before)
    (hdenied : ∀ key row, op.failing key row → before.db.externalActions.find key = some row →
      Denied deployment before.calls key row) :
    Accounted deployment after ∧ Evolves before after ∧ after.calls = before.calls := by
  obtain ⟨response, hperform, -⟩ := hstep
  have hsame (heq : after = before) :
      Accounted deployment after ∧ Evolves before after ∧ after.calls = before.calls := by
    subst heq
    exact ⟨haccounted, .refl _, rfl⟩
  cases op with
  | store call =>
    obtain ⟨reading, fault, -, ⟨hafter, -⟩ | ⟨reply, db, hok, hafter, -⟩⟩ :=
      committed_of_perform hperform
    · exact hsame hafter
    · have hchange := calm_of_call hok hcalm
      rw [hafter, record_of_calm hcalm]
      exact ⟨haccounted.calm hchange hdenied, evolves_of_calm hchange, rfl⟩
  | decide | executeTool | evaluateFinish | leaseLost =>
    cases response <;> cases hperform
    exact hsame rfl
  | runtimeEnded =>
    cases response <;> cases hperform
    exact ⟨⟨haccounted.rows, haccounted.counted, haccounted.commits_nodup, haccounted.spent,
      haccounted.entered, haccounted.calls_nodup, haccounted.denied⟩,
      ⟨(Evolves.refl before).rows, List.Subset.refl _, List.Subset.refl _⟩, rfl⟩
  | unfollowed => cases response <;> cases hperform
  | enterProvider | awaitProvider => cases hcalm

/-- A calm operation that fails no action keeps whatever its worker may rely on. -/
theorem keeps_of_calm {op : Op} {assertion : World → Prop} (hcalm : op.isCalm = true)
    (hfailing : ∀ key row, ¬ op.failing key row)
    (hstable : ∀ before after, (accounting hasher deployment).rely worker before after →
      assertion before → assertion after) :
    Program.Keeps (accounting hasher deployment) worker assertion op := by
  intro before answer after haccounted hassertion hstep
  obtain ⟨hafter, hevolves, hcalls⟩ := accounted_of_calm hstep hcalm haccounted
    fun key row hkey ↦ (hfailing key row hkey).elim
  refine ⟨hafter, guar_of_calls hevolves hcalls, ?_⟩
  exact hstable before after ⟨hevolves, ownCalls_of_calls hcalls worker⟩ hassertion

/-! What a worker knows of an action while it executes it. -/

/-- The worker holds a record of the action that was once its row. -/
structure Seen (world : World) (action : ExternalActionRecord) : Prop where
  row : ∃ tokens row, tokens ⊆ world.tokens ∧
    (∀ token, action.dispatchToken = some token → token ∈ tokens) ∧
    world.db.externalActions.find (action.runId, action.stepId) = some row ∧
    RowEvolves tokens action.toExternalActionRow row

theorem Seen.evolve {action : ExternalActionRecord} (hseen : Seen before action)
    (hevolves : Evolves before after) : Seen after action := by
  obtain ⟨tokens, row, htokens, htoken, hfind, hrow⟩ := hseen.row
  obtain ⟨next, hnext, hrow'⟩ := hevolves.rows _ _ hfind
  exact ⟨tokens, next, List.Subset.trans htokens hevolves.tokens, htoken, hnext,
    hrow.trans hrow' htokens⟩

/-- A record of the current row. -/
theorem seen_of_find {runId stepId : String} {row : ExternalActionRow}
    (haccounted : Accounted deployment before)
    (hfind : before.db.externalActions.find (runId, stepId) = some row) :
    Seen before (.of runId stepId row) :=
  ⟨before.tokens, row, List.Subset.refl _, (haccounted.rows _ _ hfind).token, hfind, .refl _ row⟩

/-- The worker holds the dispatch of an action and has not entered the provider with it. -/
structure HoldsDispatch (worker : Nat) (world : World) (action : ExternalActionRecord)
    (token : String) : Prop where
  seen : Seen world action
  token : action.dispatchToken = some token
  unspent : Unspent world ⟨worker, action.runId, action.stepId, action.dispatchCount⟩

theorem HoldsDispatch.rely {action : ExternalActionRecord} {token : String}
    (hholds : HoldsDispatch worker before action token)
    (hrely : (accounting hasher deployment).rely worker before after) :
    HoldsDispatch worker after action token where
  seen := hholds.seen.evolve hrely.1
  token := hholds.token
  unspent :=
    ⟨hrely.1.commits hholds.unspent.committed, hrely.2.symm ▸ hholds.unspent.unspent⟩

/-- A worker holds the dispatch that it just committed. -/
theorem holds_of_dispatch {reading : Reading} {runId stepId : String}
    {action : ExternalActionRow} {retry : Bool} (haccounted : Accounted deployment before)
    (hready : Dispatchable deployment before reading runId stepId action) :
    HoldsDispatch worker (before.afterDispatch worker reading runId stepId action retry)
      (.of runId stepId
        (dispatchedAction action ("dispatch_" ++ reading.uuid 0) (reading.utcNow 0)))
      ("dispatch_" ++ reading.uuid 0) where
  seen := by
    have hafter : Accounted deployment
        (before.afterDispatch worker reading runId stepId action retry) :=
      haccounted.dispatch hready
    refine seen_of_find hafter ?_
    have hfind := recordDispatch_find before.db reading runId stepId action retry (runId, stepId)
    rw [if_pos rfl, hready.find] at hfind
    exact hfind
  token := rfl
  unspent := by
    refine ⟨List.mem_append_right _ (List.mem_singleton_self _), fun entry hmem heq ↦ ?_⟩
    obtain ⟨call, hcall, rfl⟩ := List.mem_map.mp hmem
    have hcommit : call.commit = ⟨worker, runId, stepId, action.dispatchCount + 1⟩ := heq
    have hspent := haccounted.spent call (List.mem_of_mem_filter hcall)
    have hle := haccounted.dispatch_le hready.find hspent (by rw [hcommit])
    rw [hcommit] at hle
    exact absurd hle (Nat.not_succ_le_self _)

end Operations

end AgentRuntime.Execution
