import AgentRuntime.Store.LedgerFrame
import AgentRuntime.Store.TenantView

/-!
# Tenant isolation of the Run store

Take any history of the Run store and delete from it what concerns the Runs of other tenants: their
creations, every operation that addresses one of them, and the claims and queued cancellations that
picked one. What is left, replayed on an empty store, answers every operation as the full history
did and ends with the same data of the tenant (`tenants_are_isolated`). A deleted operation changes
nothing of the tenant (`TenantView.foreign`), a kept one acts alike on both stores (`matches_kept`).
-/

set_option autoImplicit false
set_option relaxedAutoImplicit false

namespace AgentRuntime.Store

open Library

/-- A call of the Run store together with what it reads from outside the database. -/
structure RunRequest where
  reading : Reading
  call : RunCall

/-- What a request returns or raises. -/
def RunRequest.outcome (hasher : Hasher) (db : Database) (request : RunRequest) :
    Except StoreError request.call.Reply :=
  (request.call.perform hasher db request.reading).map Prod.fst

/-- The database after a request; a call that raises is rolled back. -/
def RunRequest.apply (hasher : Hasher) (db : Database) (request : RunRequest) : Database :=
  match request.call.perform hasher db request.reading with
  | .ok (_, after) => after
  | .error _ => db

/-- The Run store over one initially empty file. -/
def runStoreMachine (hasher : Hasher) : Machine Database RunRequest where
  init := Database.empty
  next := RunRequest.apply hasher

/-! ### Whose data an operation is about -/

/-- The tenant that an operation passes. -/
def RunCall.tenant : RunCall → Option String
  | createRun run | createRunWithEvent run _ _ => some run.tenantId
  | commitCompletedRun run _ | commitCheckpointConflict run _ _
  | quarantineCheckpointConflict run _ _ | commitCancelledRun run _ _
  | commitFailedRun run _ _ _ _ _ => some run.tenantId
  | appendControlPlaneEvent _ tenantId _ _ | requestCancelAtomically _ tenantId
  | commitReconciliationPending _ tenantId _ _ _ | applyQuarantineResolution _ tenantId ..
  | planQuarantineResolution _ tenantId .. | getRunForTenant _ tenantId
  | getRunByClientRequestId tenantId _ | listEventsForTenant _ tenantId _
  | loadThreadStateSnapshot _ tenantId .. => some tenantId
  | verifyQuarantineResolution commit => some commit.plan.thread.tenantId
  | claimNextRun .. | renewRunLease .. | expireRunLease .. | appendAttemptEvent ..
  | finalizeNextQueuedCancellation | getRunInternal _ | listEvents .. => none

/-- The Run that an operation addresses. -/
def RunCall.runId : RunCall → Option String
  | renewRunLease runId .. | expireRunLease runId _ | appendAttemptEvent runId ..
  | appendControlPlaneEvent runId .. | requestCancelAtomically runId _
  | commitReconciliationPending runId .. | applyQuarantineResolution runId ..
  | planQuarantineResolution runId .. | getRunInternal runId | getRunForTenant runId _
  | listEvents runId _ | listEventsForTenant runId _ _ => some runId
  | commitCompletedRun run _ | commitCheckpointConflict run _ _
  | quarantineCheckpointConflict run _ _ | commitCancelledRun run _ _
  | commitFailedRun run _ _ _ _ _ => some run.runId
  | verifyQuarantineResolution commit => some commit.plan.target.identifier
  | createRun _ | createRunWithEvent .. | claimNextRun .. | finalizeNextQueuedCancellation
  | getRunByClientRequestId .. | loadThreadStateSnapshot .. => none

/-- The tenant of the Run that an operation addresses or picks, or else the one it passes. -/
def RunCall.subject (db : Database) (reading : Reading) : RunCall → Option String
  | claimNextRun ownerId duration code =>
    match Store.claimNextRun db reading ownerId duration code with
    | .ok (some claim, _) => some claim.run.tenantId
    | _ => none
  | finalizeNextQueuedCancellation =>
    match Store.finalizeNextQueuedCancellation db reading with
    | .ok (some run, _) => some run.tenantId
    | _ => none
  | call =>
    match call.runId.bind db.runs.find with
    | some row => some row.tenantId
    | none => call.tenant

/-- The request is not about another tenant. -/
def RunRequest.concerns (tenant : String) (db : Database) (request : RunRequest) : Bool :=
  match request.call.subject db request.reading with
  | some other => other == tenant
  | none => true

/-- A request with its answer. -/
structure AnsweredRequest where
  request : RunRequest
  outcome : Except StoreError request.call.Reply

/-- The requests of a history that concern a tenant. -/
def concerning (hasher : Hasher) (tenant : String) (history : List RunRequest) : List RunRequest :=
  (runStoreMachine hasher).log
    (fun db request ↦ if request.concerns tenant db then [request] else []) Database.empty history

/-- The answers to the requests of a history. -/
def answers (hasher : Hasher) (history : List RunRequest) : List AnsweredRequest :=
  (runStoreMachine hasher).log (fun db request ↦ [⟨request, request.outcome hasher db⟩])
    Database.empty history

/-- The answers that a history gives to the requests that concern a tenant. -/
def answersConcerning (hasher : Hasher) (tenant : String) (history : List RunRequest) :
    List AnsweredRequest :=
  (runStoreMachine hasher).log
    (fun db request ↦
      if request.concerns tenant db then [⟨request, request.outcome hasher db⟩] else [])
    Database.empty history

/-- The Run that an operation creates. -/
def RunCall.created : RunCall → Option RunRecord
  | createRun run | createRunWithEvent run _ _ => some run
  | _ => none

/-- Generated Run ids: no two tenants create Runs with the same id. -/
def RunIdsOfTenants (history : List RunRequest) : Prop :=
  ∀ first ∈ history, ∀ second ∈ history, ∀ run other, first.call.created = some run →
    second.call.created = some other → run.runId = other.runId → run.tenantId = other.tenantId

/-! ### Operations on other tenants -/

section Foreign

variable {tenant : String} {db view : Database}

theorem TenantView.hidden (hview : TenantView tenant db view) {runId : String} {row : RunRow}
    (hfind : db.runs.find runId = some row) (hforeign : row.tenantId ≠ tenant) :
    view.runs.find runId = none := by
  rw [hview.runs, hfind]
  simp [Option.filter, hforeign]

theorem eventsOf_appendNotes_of_ne (events : List EventRow) {runId other : String}
    (hne : other ≠ runId) (notes : List Note) :
    eventsOf (appendNotes events other notes) runId = eventsOf events runId := by
  unfold appendNotes
  induction notes generalizing events with
  | nil => rfl
  | cons note rest ih =>
    rw [List.foldl_cons, ih, eventsOf_append, if_neg (by simpa [newEvent] using hne),
      List.append_nil]

/-- One Run that the tenant does not see is created or rewritten, with events of that Run. -/
theorem TenantView.unseen (hview : TenantView tenant db view) {after : Database} {runId : String}
    {row : RunRow} {notes : List Note} (hhidden : view.runs.find runId = none)
    (hforeign : row.tenantId ≠ tenant) (hruns : RewritesRun db after runId row)
    (hevents : after.runEvents = appendNotes db.runEvents runId notes)
    (hthreads : ∀ threadId, after.threadStates.find (tenant, threadId) =
      db.threadStates.find (tenant, threadId))
    (hledger : SameLedger db after) : TenantView tenant after view where
  runs other := by
    rw [hruns]
    by_cases hother : other = runId
    · subst hother
      rw [if_pos rfl, hhidden]
      simp [Option.filter, hforeign]
    · rw [if_neg hother]
      exact hview.runs other
  events other hvisible := by
    have hne : runId ≠ other := by
      rintro rfl
      exact hvisible hhidden
    rw [hevents, eventsOf_appendNotes_of_ne _ hne]
    exact hview.events other hvisible
  threads threadId := by
    rw [hthreads]
    exact hview.threads threadId
  ledger := by
    obtain ⟨h1, h2, h3, h4⟩ := hledger
    obtain ⟨v1, v2, v3, v4⟩ := hview.ledger
    exact ⟨v1.trans h1.symm, v2.trans h2.symm, v3.trans h3.symm, v4.trans h4.symm⟩

/-- What a claim does to the tables, with the Run it returns. -/
theorem claimNextRun_rewrites {after : Database} {reading : Reading} {ownerId : String}
    {duration : Int} {code : Option String} {claim : RunLeaseClaim}
    (hok : claimNextRun db reading ownerId duration code = .ok (some claim, after)) :
    ∃ row rewritten notes, db.runs.find claim.run.runId = some row ∧
      row.tenantId = claim.run.tenantId ∧ rewritten.tenantId = claim.run.tenantId ∧
      RewritesRun db after claim.run.runId rewritten ∧
      after.runEvents = appendNotes db.runEvents claim.run.runId notes ∧
      after.threadStates = db.threadStates := by
  unfold claimNextRun at hok
  split_ifs at hok
  split at hok
  · cases hok
  · next runId row hcandidate =>
    obtain ⟨hfind, -, -⟩ := claimCandidate_eq_some hcandidate
    simp only at hok
    split_ifs at hok
    · obtain ⟨hclaim, rfl⟩ := Prod.mk.inj (Except.ok.inj hok)
      obtain rfl := Option.some.inj hclaim
      cases hreason : recoveryReason row with
      | none =>
        simp only [appendRecoveredEvent, hreason]
        exact ⟨row, _, [⟨"run.started", _, reading.utcNow 2⟩], hfind, rfl, rfl,
          rewritesRun_updateRun _ hfind, rfl, rfl⟩
      | some reason =>
        simp only [appendRecoveredEvent, hreason]
        exact ⟨row, _, [⟨"run.recovered", _, reading.utcNow 1⟩,
          ⟨"run.started", _, reading.utcNow 2⟩], hfind, rfl, rfl,
          rewritesRun_updateRun _ hfind, rfl, rfl⟩
    · cases hok

/-- What a queued cancellation does to the tables, with the Run it returns. -/
theorem finalizeNextQueuedCancellation_rewrites {after : Database} {reading : Reading}
    {run : RunRecord}
    (hok : finalizeNextQueuedCancellation db reading = .ok (some run, after)) :
    ∃ row rewritten notes, db.runs.find run.runId = some row ∧ row.tenantId = run.tenantId ∧
      rewritten.tenantId = run.tenantId ∧ RewritesRun db after run.runId rewritten ∧
      after.runEvents = appendNotes db.runEvents run.runId notes ∧
      after.threadStates = db.threadStates := by
  unfold finalizeNextQueuedCancellation at hok
  split at hok
  · cases hok
  · next runId row hcandidate =>
    have hmem := List.argmin_mem hcandidate
    rw [List.mem_filter, Table.mem_rows_iff] at hmem
    obtain ⟨hrun, rfl⟩ := Prod.mk.inj (Except.ok.inj hok)
    obtain rfl := Option.some.inj hrun
    exact ⟨row, _, [⟨"run.cancelled", _, reading.utcNow 1⟩], hmem.1, rfl, rfl,
      rewritesRun_updateRun _ hmem.1, rfl, rfl⟩

/-- The row that an addressed call rewrites is the one it addresses. -/
theorem RowChange.addressed {reading : Reading} {call : RunCall} {runId : String}
    {row rewritten : RunRow} {notes : List Note}
    (hchange : RowChange db reading call runId row rewritten notes)
    (hfind : db.runs.find runId = some row) :
    (∃ ownerId duration code, call = .claimNextRun ownerId duration code) ∨
      call = .finalizeNextQueuedCancellation ∨ call.subject db reading = some row.tenantId := by
  cases hchange with
  | claimQueued ownerId duration code hcall => exact .inl ⟨ownerId, duration, code, hcall⟩
  | takeover ownerId duration code reason hcall => exact .inl ⟨ownerId, duration, code, hcall⟩
  | cancelQueued hcall => exact .inr (.inl hcall)
  | renew token duration hcall | expire token hcall | marker token code error hcall
  | attemptEvent token eventType payload hcall | controlEvent eventType payload hcall
  | requestCancel hcall
  | resolve target resolution planId subject credential audit failure hcall =>
    subst hcall
    simp [RunCall.subject, RunCall.runId, hfind]
  | fail run token code error traceback allow hcall hrun
  | cancel run token reason hcall hrun
  | quarantine run token phase hcall hrun =>
    subst hcall hrun
    simp [RunCall.subject, RunCall.runId, hfind]
  | conflict run token phase hcall hrun =>
    subst hrun
    rcases hcall with rfl | ⟨rfl, -⟩
    · simp [RunCall.subject, RunCall.runId, hfind]
    · simp [RunCall.subject, RunCall.runId, hfind]

/-- An operation about another tenant changes nothing that the tenant sees. -/
theorem TenantView.foreign (hview : TenantView tenant db view) {hasher : Hasher}
    {after : Database} {reading : Reading} {call : RunCall} {reply : call.Reply} {other : String}
    (hok : call.perform hasher db reading = .ok (reply, after))
    (hsubject : call.subject db reading = some other) (hne : other ≠ tenant) :
    TenantView tenant after view := by
  have hledger := (onlyRunTables_of_run hok).1
  -- A Run that the operation picked by itself.
  have hpicked (runId : String)
      (hrewrites : ∃ row rewritten notes, db.runs.find runId = some row ∧
        row.tenantId = other ∧ rewritten.tenantId = other ∧ RewritesRun db after runId rewritten ∧
        after.runEvents = appendNotes db.runEvents runId notes ∧
        after.threadStates = db.threadStates) : TenantView tenant after view := by
    obtain ⟨row, rewritten, notes, hfind, hrow, hrewritten, hruns, hevents, hthreads⟩ := hrewrites
    refine hview.unseen (hview.hidden hfind (hrow ▸ hne)) (hrewritten ▸ hne) hruns hevents
      (fun _ ↦ by rw [hthreads]) hledger
  cases change_of_perform hok with
  | same htables =>
    obtain ⟨hruns, hevents, hthreads⟩ := htables
    obtain ⟨h1, h2, h3, h4⟩ := hledger
    obtain ⟨v1, v2, v3, v4⟩ := hview.ledger
    exact
      { runs := by rw [hruns]; exact hview.runs
        events := by rw [hevents]; exact hview.events
        threads := by rw [hthreads]; exact hview.threads
        ledger := ⟨v1.trans h1.symm, v2.trans h2.symm, v3.trans h3.symm, v4.trans h4.symm⟩ }
  | created run notes hcall _ hfresh _ hruns hevents hthreads =>
    have htenant : run.tenantId = other := by
      rcases hcall with ⟨rfl, -⟩ | ⟨payload, rfl, -⟩
      · simpa [RunCall.subject, RunCall.runId, RunCall.tenant] using hsubject
      · simpa [RunCall.subject, RunCall.runId, RunCall.tenant] using hsubject
    have hcreated : (createdRow run).tenantId = run.tenantId := by
      unfold createdRow
      split_ifs <;> rfl
    refine hview.unseen ?_ (by rw [hcreated, htenant]; exact hne) hruns hevents
      (fun _ ↦ by rw [hthreads]) hledger
    rw [hview.runs, hfresh]
    rfl
  | rewritten runId row rewritten notes hfind hchange hruns hevents hthreads =>
    rcases hchange.addressed hfind with ⟨ownerId, duration, code, rfl⟩ | rfl | hrow
    · cases reply with
      | none =>
        have hnone : claimNextRun db reading ownerId duration code = .ok (none, after) := hok
        rw [RunCall.subject, hnone] at hsubject
        cases hsubject
      | some claim =>
        have hsome : claimNextRun db reading ownerId duration code = .ok (some claim, after) := hok
        rw [RunCall.subject, hsome] at hsubject
        obtain rfl := Option.some.inj hsubject
        exact hpicked _ (claimNextRun_rewrites hsome)
    · cases reply with
      | none =>
        have hnone : finalizeNextQueuedCancellation db reading = .ok (none, after) := hok
        rw [RunCall.subject, hnone] at hsubject
        cases hsubject
      | some run =>
        have hsome : finalizeNextQueuedCancellation db reading = .ok (some run, after) := hok
        rw [RunCall.subject, hsome] at hsubject
        obtain rfl := Option.some.inj hsubject
        exact hpicked _ (finalizeNextQueuedCancellation_rewrites hsome)
    · obtain rfl : row.tenantId = other := Option.some.inj (hrow.symm.trans hsubject)
      refine hview.unseen (hview.hidden hfind hne) ?_ hruns hevents (fun _ ↦ by rw [hthreads])
        hledger
      rw [hchange.submission_kept.tenant]
      exact hne
  | completed run token row state hcall hcompletion =>
    subst hcall
    have hrow : row.tenantId = other := by
      simpa [RunCall.subject, RunCall.runId, hcompletion.find] using hsubject
    refine hview.unseen (hview.hidden hcompletion.find (hrow ▸ hne)) (hrow ▸ hne)
      hcompletion.runs hcompletion.events (fun threadId ↦ ?_) hledger
    rw [hcompletion.threads, if_neg]
    intro hkey
    exact hne (hrow.symm.trans (congrArg Prod.fst hkey).symm)

end Foreign

/-! ### Operations on the tenant -/

/-- What every reachable Run store satisfies. -/
structure StoreSound (db : Database) : Prop where
  events : EventsOwned db
  threads : OneRunningPerThread db
  requests : RequestsUnique db

theorem EventsOwned.rewrites {db after : Database} {runId : String} {row : RunRow}
    {notes : List Note} (howned : EventsOwned db) (hruns : RewritesRun db after runId row)
    (hevents : after.runEvents = appendNotes db.runEvents runId notes) : EventsOwned after := by
  intro other hgone
  rw [hruns] at hgone
  split_ifs at hgone with hother
  rw [hevents, eventsOf_appendNotes_of_ne _ (Ne.symm hother)]
  exact howned other hgone

theorem eventsOwned_change {db after : Database} {reading : Reading} {call : RunCall}
    (howned : EventsOwned db) (hchange : RunChange db reading call after) : EventsOwned after := by
  cases hchange with
  | same htables =>
    intro runId hgone
    rw [htables.1] at hgone
    rw [htables.2.1]
    exact howned runId hgone
  | created run notes _ _ _ _ hruns hevents => exact howned.rewrites hruns hevents
  | rewritten runId row rewritten notes _ _ hruns hevents => exact howned.rewrites hruns hevents
  | completed run token row state _ hcompletion =>
    exact howned.rewrites hcompletion.runs hcompletion.events

theorem storeSound_empty : StoreSound Database.empty where
  events := fun _ _ ↦ rfl
  threads := oneRunningPerThread_empty
  requests := requestsUnique_empty

theorem StoreSound.perform {hasher : Hasher} {db after : Database} {reading : Reading}
    {call : RunCall} {reply : call.Reply} (hsound : StoreSound db)
    (hok : call.perform hasher db reading = .ok (reply, after)) : StoreSound after where
  events := eventsOwned_change hsound.events (change_of_perform hok)
  threads := oneRunningPerThread_change hsound.threads (change_of_perform hok)
  requests := requestsUnique_perform hsound.requests hok

theorem StoreSound.apply {db : Database} (hsound : StoreSound db) (hasher : Hasher)
    (request : RunRequest) : StoreSound (request.apply hasher db) := by
  unfold RunRequest.apply
  split
  · next hok => exact hsound.perform hok
  · exact hsound

/-- The subject of a call that addresses a Run is the tenant of that Run. -/
theorem RunCall.subject_of_find {db : Database} {reading : Reading} {call : RunCall}
    {runId : String} {row : RunRow} (hrun : call.runId = some runId)
    (hfind : db.runs.find runId = some row) : call.subject db reading = some row.tenantId := by
  cases call <;> cases hrun <;> simp [RunCall.subject, RunCall.runId, hfind]

/-- A call that passes a tenant has a subject. -/
theorem RunCall.subject_of_tenant {db : Database} {reading : Reading} {call : RunCall}
    {passed : String} (htenant : call.tenant = some passed) :
    call.subject db reading = some passed ∨
      ∃ runId row, call.runId = some runId ∧ db.runs.find runId = some row ∧
        call.subject db reading = some row.tenantId := by
  cases hfound : call.runId.bind db.runs.find with
  | none =>
    left
    cases call <;> cases htenant <;> simp only [RunCall.subject, hfound, RunCall.tenant]
  | some row =>
    obtain ⟨runId, hrun, hfind⟩ := Option.bind_eq_some_iff.1 hfound
    exact .inr ⟨runId, row, hrun, hfind, RunCall.subject_of_find hrun hfind⟩

section Kept

variable {tenant : String} {db view : Database} {reading : Reading} {call : RunCall}

/-- The Run that a request about the tenant addresses is one of the tenant, or of none. -/
theorem RunCall.own_of_subject {runId : String} (hrun : call.runId = some runId)
    (hsubject : ∀ other, call.subject db reading = some other → other = tenant) :
    Own tenant db runId :=
  fun _ hfind ↦ hsubject _ (RunCall.subject_of_find hrun hfind)

/-- A request about the tenant acts alike on the store and on the view of the tenant. -/
theorem matches_kept (hview : TenantView tenant db view) (hsound : StoreSound db)
    (hviewSound : StoreSound view) (hasher : Hasher)
    (hsubject : ∀ other, call.subject db reading = some other → other = tenant)
    (hcreated : ∀ run, call.created = some run → Own tenant db run.runId) :
    Matches tenant (call.perform hasher db reading) (call.perform hasher view reading) := by
  cases call with
  | createRun run =>
    exact matches_createRun hview (hsubject _ rfl) (hcreated run rfl) hsound.events
      hviewSound.events
  | createRunWithEvent run eventType payload =>
    exact matches_createRunWithEvent hview (hsubject _ rfl) (hcreated run rfl) hsound.events
      hviewSound.events reading eventType payload
  | claimNextRun ownerId duration code =>
    refine matches_claimNextRun hview hsound.threads hviewSound.threads reading ownerId duration
      code fun claim after hclaim ↦ hsubject _ ?_
    rw [RunCall.subject, hclaim]
  | finalizeNextQueuedCancellation =>
    refine matches_finalizeNextQueuedCancellation hview reading fun run after hfinal ↦
      hsubject _ ?_
    rw [RunCall.subject, hfinal]
  | getRunByClientRequestId tenantId clientRequestId =>
    obtain rfl : tenantId = tenant := hsubject _ rfl
    exact matches_reads hview (congrArg Except.ok
      (hview.getRunByClientRequestId hsound.requests hviewSound.requests clientRequestId))
  | loadThreadStateSnapshot threadId tenantId domainId schemaVersion expected require =>
    obtain rfl : tenantId = tenant := hsubject _ rfl
    exact matches_reads hview
      (hview.loadThreadStateSnapshot threadId domainId schemaVersion expected require)
  | renewRunLease runId token duration =>
    exact matches_renewRunLease hview (RunCall.own_of_subject rfl hsubject) reading token duration
  | expireRunLease runId token =>
    exact matches_expireRunLease hview (RunCall.own_of_subject rfl hsubject) reading token
  | appendAttemptEvent runId token eventType payload =>
    exact matches_appendAttemptEvent hview (RunCall.own_of_subject rfl hsubject) reading token
      eventType payload
  | appendControlPlaneEvent runId tenantId eventType payload =>
    exact matches_appendControlPlaneEvent hview (RunCall.own_of_subject rfl hsubject) reading
      tenantId eventType payload
  | requestCancelAtomically runId tenantId =>
    exact matches_requestCancelAtomically hview (RunCall.own_of_subject rfl hsubject) reading
      tenantId
  | commitReconciliationPending runId tenantId token code error =>
    exact matches_commitReconciliationPending hview (RunCall.own_of_subject rfl hsubject) reading
      tenantId token code error
  | commitCompletedRun run token =>
    exact matches_commitCompletedRun hview (RunCall.own_of_subject rfl hsubject) reading token
  | commitCheckpointConflict run token phase =>
    exact matches_commitCheckpointConflict hview (RunCall.own_of_subject rfl hsubject) reading
      token phase
  | quarantineCheckpointConflict run token phase =>
    exact matches_quarantineCheckpointConflict hview (RunCall.own_of_subject rfl hsubject) reading
      token phase
  | commitCancelledRun run reason token =>
    exact matches_commitCancelledRun hview (RunCall.own_of_subject rfl hsubject) reading reason
      token
  | commitFailedRun run token code error traceback allow =>
    exact matches_commitFailedRun hview (RunCall.own_of_subject rfl hsubject) reading token code
      error traceback allow
  | applyQuarantineResolution runId tenantId target resolution planId subject credential =>
    exact matches_applyQuarantineResolution hview (RunCall.own_of_subject rfl hsubject)
      hsound.events hviewSound.events hasher reading tenantId target resolution planId subject
      credential
  | planQuarantineResolution runId tenantId target resolution =>
    refine matches_reads hview ?_
    unfold planQuarantineResolution
    rw [hview.deriveQuarantinePlan (RunCall.own_of_subject rfl hsubject)]
  | verifyQuarantineResolution commit =>
    exact matches_reads hview (hview.verifyQuarantineResolution hsound.events hviewSound.events
      hasher (RunCall.own_of_subject rfl hsubject))
  | getRunInternal runId =>
    refine matches_reads hview (congrArg Except.ok ?_)
    unfold getRunInternal
    rw [hview.find_own (RunCall.own_of_subject rfl hsubject)]
  | getRunForTenant runId tenantId =>
    refine matches_reads hview (congrArg Except.ok ?_)
    unfold getRunForTenant
    rw [hview.findRunForTenant (RunCall.own_of_subject rfl hsubject)]
  | listEvents runId afterSequence =>
    exact matches_reads hview (congrArg Except.ok (hview.listRunEvents
      (RunCall.own_of_subject rfl hsubject) hsound.events hviewSound.events afterSequence))
  | listEventsForTenant runId tenantId afterSequence =>
    have hown := RunCall.own_of_subject rfl hsubject
    refine matches_reads hview (congrArg Except.ok ?_)
    unfold listEventsForTenant
    rw [hview.findRunForTenant hown,
      hview.listRunEvents hown hsound.events hviewSound.events afterSequence]

end Kept

/-! ### Calls that pass another tenant than that of the Run -/

section Mismatched

variable {db view : Database} {reading : Reading}

theorem refuseCommit_of_missing {run : RunRecord}
    (hmissing : findRunForTenant db run.runId run.tenantId = none) (token : String) (nowMs : Int) :
    refuseCommit db run token nowMs = .error (.keyError ("Run not found: " ++ run.runId)) := by
  unfold refuseCommit classifyCommitOutcome
  rw [hmissing]

/-- No attempt of a Run that the tenant does not have. -/
theorem attempt_of_missing {runId tenantId : String} (select : RunRow → Bool)
    (hselect : ∀ row, select row = true → row.tenantId = tenantId)
    (hmissing : findRunForTenant db runId tenantId = none) (token : String) (nowMs : Int) :
    (currentAttempt db runId token nowMs).filter select = none := by
  rw [Option.filter_eq_none_iff]
  intro row hattempt hmatch
  obtain ⟨hfind, -⟩ := (currentAttempt_eq_some_iff _ _ _ _ _).1 hattempt
  have hfound := (findRunForTenant_eq_some_iff db runId tenantId row).2 ⟨hfind, hselect row hmatch⟩
  rw [hmissing] at hfound
  cases hfound

/-- A call that passes a tenant which does not have the Run raises, or returns that there is no
such Run and no events; it changes nothing. -/
theorem perform_of_missing {hasher : Hasher} {after : Database} {call : RunCall}
    {reply : call.Reply} {passed runId : String} (htenant : call.tenant = some passed)
    (hrun : call.runId = some runId) (hmissing : findRunForTenant db runId passed = none)
    (hviewMissing : findRunForTenant view runId passed = none)
    (hok : call.perform hasher db reading = .ok (reply, after)) :
    after = db ∧ call.perform hasher view reading = .ok (reply, view) := by
  cases call with
  | createRun | createRunWithEvent | getRunByClientRequestId | loadThreadStateSnapshot => cases hrun
  | claimNextRun | renewRunLease | expireRunLease | appendAttemptEvent
  | finalizeNextQueuedCancellation | getRunInternal | listEvents => cases htenant
  | appendControlPlaneEvent =>
    cases htenant
    cases hrun
    simp only [RunCall.perform, appendControlPlaneEvent, hmissing] at hok
    split_ifs at hok
  | requestCancelAtomically =>
    cases htenant
    cases hrun
    simp only [RunCall.perform, requestCancelAtomically, hmissing] at hok
    cases hok
  | commitReconciliationPending _ _ token =>
    cases htenant
    cases hrun
    simp only [RunCall.perform, commitReconciliationPending, classifyCommitOutcome, hmissing,
      attempt_of_missing (fun row ↦ row.tenantId == passed) (by simp) hmissing] at hok
    cases hok
  | commitCompletedRun run token =>
    cases htenant
    cases hrun
    simp only [RunCall.perform, commitCompletedRun, hmissing] at hok
    cases hok
  | commitCheckpointConflict run token phase =>
    cases htenant
    cases hrun
    simp only [RunCall.perform, commitCheckpointConflict, hmissing] at hok
    cases hok
  | quarantineCheckpointConflict run token phase =>
    cases htenant
    cases hrun
    simp only [RunCall.perform, quarantineCheckpointConflict, hmissing] at hok
    cases hok
  | commitCancelledRun run reason token =>
    cases htenant
    cases hrun
    simp only [RunCall.perform, commitCancelledRun, hmissing, Option.filter_none,
      refuseCommit_of_missing hmissing] at hok
    cases hok
  | commitFailedRun run token code error traceback allow =>
    cases htenant
    cases hrun
    have hattempt := attempt_of_missing
      (fun row ↦ row.tenantId == run.tenantId && (!row.cancelRequested || allow))
      (by simp +contextual) hmissing token reading.nowMs
    simp only [RunCall.perform, commitFailedRun, hattempt, refuseCommit_of_missing hmissing] at hok
    cases hok
  | applyQuarantineResolution =>
    cases htenant
    cases hrun
    simp only [RunCall.perform, applyQuarantineResolution, deriveQuarantinePlan, hmissing] at hok
    split at hok
    · cases hok
    · split at hok
      · cases hok
      · next hplan => split_ifs at hplan
  | planQuarantineResolution =>
    cases htenant
    cases hrun
    simp only [RunCall.perform, planQuarantineResolution, deriveQuarantinePlan, hmissing] at hok
    split_ifs at hok <;> cases hok
  | verifyQuarantineResolution commit =>
    cases htenant
    cases hrun
    simp only [RunCall.perform, verifyQuarantineResolution, hmissing] at hok
    split at hok <;> cases hok
  | getRunForTenant =>
    cases htenant
    cases hrun
    simp only [RunCall.perform, getRunForTenant, hmissing, hviewMissing, reads] at hok ⊢
    obtain ⟨rfl, rfl⟩ := Prod.mk.inj (Except.ok.inj hok)
    exact ⟨rfl, rfl⟩
  | listEventsForTenant =>
    cases htenant
    cases hrun
    simp only [RunCall.perform, listEventsForTenant, hmissing, hviewMissing, reads] at hok ⊢
    obtain ⟨rfl, rfl⟩ := Prod.mk.inj (Except.ok.inj hok)
    exact ⟨rfl, rfl⟩

end Mismatched

/-! ### Whole histories -/

/-- Every Run of the store was created by a request of the history, for its tenant. -/
def Registered (history : List RunRequest) (db : Database) : Prop :=
  ∀ runId row, db.runs.find runId = some row → ∃ request ∈ history, ∃ run,
    request.call.created = some run ∧ run.runId = runId ∧ run.tenantId = row.tenantId

theorem Registered.rewrites {history : List RunRequest} {db after : Database} {runId : String}
    {rewritten : RunRow} (hregistered : Registered history db)
    (hruns : RewritesRun db after runId rewritten)
    (hrow : ∃ request ∈ history, ∃ run, request.call.created = some run ∧ run.runId = runId ∧
      run.tenantId = rewritten.tenantId) : Registered history after := by
  intro other otherRow hother
  rw [hruns] at hother
  split_ifs at hother with hsame
  · obtain rfl := Option.some.inj hother
    rw [hsame]
    exact hrow
  · exact hregistered other otherRow hother

theorem Registered.apply {history : List RunRequest} {db : Database}
    (hregistered : Registered history db) (hasher : Hasher) {request : RunRequest}
    (hmem : request ∈ history) :
    Registered history (request.apply hasher db) := by
  unfold RunRequest.apply
  split
  · next reply after hok =>
    cases change_of_perform hok with
    | same htables =>
      intro runId row hfind
      rw [htables.1] at hfind
      exact hregistered runId row hfind
    | created run notes hcall _ _ _ hruns =>
      refine hregistered.rewrites hruns ⟨request, hmem, run, ?_, rfl, ?_⟩
      · rcases hcall with ⟨hcall, -⟩ | ⟨payload, hcall, -⟩
        · rw [hcall]
          rfl
        · rw [hcall]
          rfl
      · unfold createdRow
        split_ifs <;> rfl
    | rewritten runId row rewritten notes hfind hchange hruns =>
      refine hregistered.rewrites hruns ?_
      rw [hchange.submission_kept.tenant]
      exact hregistered runId row hfind
    | completed run token row state _ hcompletion =>
      exact hregistered.rewrites hcompletion.runs (hregistered run.runId row hcompletion.find)
  · exact hregistered

theorem concerns_iff {tenant : String} {db : Database} {request : RunRequest} :
    request.concerns tenant db = true ↔
      ∀ other, request.call.subject db request.reading = some other → other = tenant := by
  unfold RunRequest.concerns
  cases request.call.subject db request.reading with
  | none => simp
  | some other => simp

/-- What the two runs have in common at a point of the history. -/
structure Paired (tenant : String) (history : List RunRequest) (db view : Database) : Prop where
  seen : TenantView tenant db view
  sound : StoreSound db
  viewSound : StoreSound view
  registered : Registered history db

section Histories

variable (hasher : Hasher) {tenant : String} {history : List RunRequest} {db view : Database}

/-- A request about another tenant is not replayed. -/
theorem Paired.skip (hpaired : Paired tenant history db view) {request : RunRequest}
    (hmem : request ∈ history) (hforeign : ¬ request.concerns tenant db = true) :
    Paired tenant history (request.apply hasher db) view where
  seen := by
    rw [concerns_iff] at hforeign
    push Not at hforeign
    obtain ⟨other, hsubject, hne⟩ := hforeign
    unfold RunRequest.apply
    split
    · next hok => exact hpaired.seen.foreign hok hsubject hne
    · exact hpaired.seen
  sound := hpaired.sound.apply hasher request
  viewSound := hpaired.viewSound
  registered := hpaired.registered.apply hasher hmem

/-- A created Run of the tenant does not meet one of another tenant. -/
theorem Paired.own_created (hpaired : Paired tenant history db view)
    (hids : RunIdsOfTenants history) {request : RunRequest} (hmem : request ∈ history)
    (hconcerns : request.concerns tenant db = true) {run : RunRecord}
    (hcreated : request.call.created = some run) : Own tenant db run.runId := by
  intro row hfind
  obtain ⟨earlier, hearlier, first, hfirst, hid, htenant⟩ :=
    hpaired.registered run.runId row hfind
  have hsame := hids earlier hearlier request hmem first run hfirst hcreated hid
  have hsubject : request.call.subject db request.reading = some run.tenantId := by
    obtain ⟨reading, call⟩ := request
    cases call <;> cases hcreated <;> rfl
  exact (htenant.symm.trans hsame).trans (concerns_iff.1 hconcerns _ hsubject)

/-- A request about the tenant is answered alike, and leaves the stores paired. -/
theorem Paired.keep (hpaired : Paired tenant history db view) (hids : RunIdsOfTenants history)
    {request : RunRequest} (hmem : request ∈ history)
    (hconcerns : request.concerns tenant db = true) :
    request.outcome hasher view = request.outcome hasher db ∧
      Paired tenant history (request.apply hasher db) (request.apply hasher view) := by
  have hmatches := matches_kept hpaired.seen hpaired.sound hpaired.viewSound hasher
    (concerns_iff.1 hconcerns) fun run hcreated ↦ hpaired.own_created hids hmem hconcerns hcreated
  have hsound := hpaired.sound.apply hasher request
  have hviewSound := hpaired.viewSound.apply hasher request
  have hregistered := hpaired.registered.apply hasher hmem
  unfold RunRequest.apply at hsound hviewSound hregistered
  unfold RunRequest.outcome RunRequest.apply
  cases hdb : request.call.perform hasher db request.reading with
  | error error =>
    cases hother : request.call.perform hasher view request.reading with
    | error same =>
      rw [hdb, hother] at hmatches
      obtain rfl : error = same := hmatches
      exact ⟨rfl, hpaired⟩
    | ok result =>
      rw [hdb, hother] at hmatches
      exact hmatches.elim
  | ok result =>
    cases hother : request.call.perform hasher view request.reading with
    | error same =>
      rw [hdb, hother] at hmatches
      exact hmatches.elim
    | ok other =>
      rw [hdb, hother] at hmatches
      rw [hdb] at hsound hregistered
      rw [hother] at hviewSound
      obtain ⟨hreply, hview⟩ := hmatches
      exact ⟨congrArg Except.ok hreply.symm, hview, hsound, hviewSound, hregistered⟩

/-- The full run and the replay of what concerns the tenant, from any paired stores. -/
theorem Paired.run (hids : RunIdsOfTenants history) (hpaired : Paired tenant history db view)
    (todo : List RunRequest) (htodo : ∀ request ∈ todo, request ∈ history) :
    Paired tenant history ((runStoreMachine hasher).run db todo)
        ((runStoreMachine hasher).run view ((runStoreMachine hasher).log
          (fun db request ↦ if request.concerns tenant db then [request] else []) db todo)) ∧
      (runStoreMachine hasher).log (fun db request ↦ [⟨request, request.outcome hasher db⟩]) view
          ((runStoreMachine hasher).log
            (fun db request ↦ if request.concerns tenant db then [request] else []) db todo) =
        (runStoreMachine hasher).log
          (fun db request ↦ if request.concerns tenant db then
            [(⟨request, request.outcome hasher db⟩ : AnsweredRequest)] else []) db todo := by
  induction todo generalizing db view with
  | nil => exact ⟨hpaired, rfl⟩
  | cons request rest ih =>
    have hmem := htodo request List.mem_cons_self
    have hrest : ∀ other ∈ rest, other ∈ history := fun other hother ↦
      htodo other (List.mem_cons_of_mem _ hother)
    simp only [Machine.log, Machine.run_cons]
    by_cases hconcerns : request.concerns tenant db = true
    · obtain ⟨houtcome, hnext⟩ := hpaired.keep hasher hids hmem hconcerns
      obtain ⟨hlast, hanswers⟩ := ih hnext hrest
      simp only [hconcerns, if_true, List.singleton_append, Machine.run_cons, Machine.log]
      refine ⟨hlast, ?_⟩
      rw [houtcome]
      exact congrArg _ hanswers
    · have hnext := hpaired.skip hasher hmem hconcerns
      simp only [hconcerns]
      exact ih hnext hrest

theorem paired_empty : Paired tenant history Database.empty Database.empty where
  seen := ⟨fun _ ↦ rfl, fun _ _ ↦ rfl, fun _ ↦ rfl, rfl, rfl, rfl, rfl⟩
  sound := storeSound_empty
  viewSound := storeSound_empty
  registered := by
    intro runId row hfind
    cases hfind

theorem fresh_of_createRun {after : Database} {run reply : RunRecord}
    (hok : createRun db run = .ok (reply, after)) : db.runs.find run.runId = none := by
  unfold createRun at hok
  split at hok
  · cases hok
  · split at hok
    · cases hok
    · next inserted hinsert => exact (insertRun_eq_ok hinsert).1

theorem fresh_of_createRunWithEvent {after : Database} {reading : Reading}
    {run reply : RunRecord} {eventType : String} {payload : Payload}
    (hok : createRunWithEvent db reading run eventType payload = .ok (reply, after)) :
    db.runs.find run.runId = none := by
  unfold createRunWithEvent at hok
  split at hok
  · cases hok
  · split_ifs at hok
    split at hok
    · cases hok
    · next inserted hinsert => exact (insertRun_eq_ok hinsert).1

/-- A created Run had no row. -/
theorem created_fresh {reading : Reading} {after : Database} {call : RunCall} {reply : call.Reply}
    {run : RunRecord} (hcreated : call.created = some run)
    (hok : call.perform hasher db reading = .ok (reply, after)) :
    db.runs.find run.runId = none := by
  cases call <;> cases hcreated
  · exact fresh_of_createRun hok
  · exact fresh_of_createRunWithEvent hok

/-- What a call that passes a tenant returns, it also returns on the store of that tenant. -/
theorem Paired.returns_own {passed : String} (hpaired : Paired passed history db view)
    {request : RunRequest} (htenant : request.call.tenant = some passed)
    {reply : request.call.Reply} (hreply : request.outcome hasher db = .ok reply) :
    request.outcome hasher view = .ok reply := by
  obtain ⟨reading, call⟩ := request
  unfold RunRequest.outcome at hreply ⊢
  cases hdb : call.perform hasher db reading with
  | error error =>
    rw [hdb] at hreply
    cases hreply
  | ok result =>
    obtain ⟨returned, after⟩ := result
    rw [hdb] at hreply
    obtain rfl : returned = reply := Except.ok.inj hreply
    -- The call is about its own tenant.
    have hkept (hsubject : call.subject db reading = some passed) :
        (call.perform hasher view reading).map Prod.fst = .ok returned := by
      have hmatches := matches_kept hpaired.seen hpaired.sound hpaired.viewSound hasher
        (fun other hother ↦ (Option.some.inj (hsubject.symm.trans hother)).symm)
        fun run hcreated row hfind ↦ by
          rw [created_fresh hasher hcreated hdb] at hfind
          cases hfind
      rw [hdb] at hmatches
      cases hview : call.perform hasher view reading with
      | error error =>
        rw [hview] at hmatches
        exact hmatches.elim
      | ok other =>
        rw [hview] at hmatches
        exact congrArg Except.ok hmatches.1.symm
    rcases RunCall.subject_of_tenant htenant with
      hsubject | ⟨runId, row, hrun, hfind, hsubject⟩
    · exact hkept hsubject
    · by_cases hrow : row.tenantId = passed
      · exact hkept (hrow ▸ hsubject)
      · have hmissing : findRunForTenant db runId passed = none := by
          simp [findRunForTenant, hfind, hrow]
        have hviewMissing : findRunForTenant view runId passed = none := by
          simp [findRunForTenant, hpaired.seen.hidden hfind hrow]
        rw [(perform_of_missing htenant hrun hmissing hviewMissing hdb).2]
        rfl

/-- A call that passes another tenant changes nothing that the tenant sees. -/
theorem TenantView.passed_foreign (hview : TenantView tenant db view) {request : RunRequest}
    {passed : String} (htenant : request.call.tenant = some passed) (hne : passed ≠ tenant) :
    TenantView tenant (request.apply hasher db) view := by
  obtain ⟨reading, call⟩ := request
  unfold RunRequest.apply
  split
  · next reply after hok =>
    rcases RunCall.subject_of_tenant htenant with hsubject | ⟨runId, row, hrun, hfind, hsubject⟩
    · exact hview.foreign hok hsubject hne
    · by_cases hrow : row.tenantId = tenant
      · have hmissing : Store.findRunForTenant db runId passed = none := by
          simp [Store.findRunForTenant, hfind, hrow, Ne.symm hne]
        rw [(perform_of_missing htenant hrun hmissing hmissing hok).1]
        exact hview
      · exact hview.foreign hok hsubject hrow
  · exact hview

end Histories

/-- The store that served only the requests of a history that concern one tenant. -/
def tenantStore (hasher : Hasher) (tenant : String) (history : List RunRequest) : Database :=
  (runStoreMachine hasher).run Database.empty (concerning hasher tenant history)

/-- Two stores hold the same Runs, events and checkpoints of a tenant. -/
structure SameDataOf (tenant : String) (db other : Database) : Prop where
  runs : ∀ runId row, row.tenantId = tenant →
    (other.runs.find runId = some row ↔ db.runs.find runId = some row)
  events : ∀ runId row, db.runs.find runId = some row → row.tenantId = tenant →
    eventsOf other.runEvents runId = eventsOf db.runEvents runId
  threads : ∀ threadId, other.threadStates.find (tenant, threadId) =
    db.threadStates.find (tenant, threadId)

theorem TenantView.find_iff {tenant : String} {db view : Database}
    (hview : TenantView tenant db view) (runId : String) (row : RunRow) :
    view.runs.find runId = some row ↔ db.runs.find runId = some row ∧ row.tenantId = tenant := by
  rw [hview.runs, Option.filter_eq_some_iff, beq_iff_eq]

theorem TenantView.sameData {tenant : String} {db view : Database}
    (hview : TenantView tenant db view) : SameDataOf tenant db view where
  runs runId row htenant := by
    rw [hview.find_iff]
    exact and_iff_left htenant
  events runId row hfind htenant := by
    refine hview.events runId ?_
    rw [(hview.find_iff runId row).2 ⟨hfind, htenant⟩]
    exact Option.some_ne_none row
  threads := hview.threads

theorem SameDataOf.symm {tenant : String} {db other : Database}
    (hsame : SameDataOf tenant db other) : SameDataOf tenant other db where
  runs runId row htenant := (hsame.runs runId row htenant).symm
  events runId row hfind htenant :=
    (hsame.events runId row ((hsame.runs runId row htenant).1 hfind) htenant).symm
  threads threadId := (hsame.threads threadId).symm

theorem SameDataOf.trans {tenant : String} {first second third : Database}
    (hfirst : SameDataOf tenant first second) (hsecond : SameDataOf tenant second third) :
    SameDataOf tenant first third where
  runs runId row htenant :=
    (hsecond.runs runId row htenant).trans (hfirst.runs runId row htenant)
  events runId row hfind htenant :=
    (hsecond.events runId row ((hfirst.runs runId row htenant).2 hfind) htenant).trans
      (hfirst.events runId row hfind htenant)
  threads threadId := (hsecond.threads threadId).trans (hfirst.threads threadId)

/-- Tenant isolation. Take from a history the requests on Runs of other tenants: the rest, on a
store of its own, is answered as it was, leaves the same rows of the tenant, and holds Runs of no
other tenant. And at any point a call that passes a tenant returns only what it would return on the
store of that tenant, and changes nothing of the others. -/
theorem tenants_are_isolated (hasher : Hasher) (tenant : String) (history : List RunRequest)
    (hids : RunIdsOfTenants history) :
    let db := (runStoreMachine hasher).run Database.empty history
    answers hasher (concerning hasher tenant history) = answersConcerning hasher tenant history ∧
      SameDataOf tenant db (tenantStore hasher tenant history) ∧
      (∀ runId row, (tenantStore hasher tenant history).runs.find runId = some row →
        row.tenantId = tenant) ∧
      ∀ (request : RunRequest) (passed : String), request.call.tenant = some passed →
        (∀ reply, request.outcome hasher db = .ok reply →
          request.outcome hasher (tenantStore hasher passed history) = .ok reply) ∧
        (passed ≠ tenant → SameDataOf tenant db (request.apply hasher db)) := by
  intro db
  have hrun (owner : String) := Paired.run hasher hids (paired_empty : Paired owner history _ _)
    history fun _ hmem ↦ hmem
  obtain ⟨hpaired, hanswers⟩ := hrun tenant
  refine ⟨hanswers, hpaired.seen.sameData, fun runId row hfind ↦ ?_, ?_⟩
  · exact ((hpaired.seen.find_iff runId row).1 hfind).2
  · intro request passed htenant
    refine ⟨fun reply hreply ↦ (hrun passed).1.returns_own hasher htenant hreply, fun hne ↦ ?_⟩
    have hafter := hpaired.seen.passed_foreign hasher htenant hne
    exact hpaired.seen.sameData.trans hafter.sameData.symm

/-- A submission for a tenant; all use one thread and one client request id. -/
def tenantSubmission (runId tenant createdAt : String) : RunRequest :=
  ⟨sampleReading 0 createdAt, .createRunWithEvent
    { sampleRun runId createdAt none with tenantId := tenant, clientRequestId := some "request" }
    "run.queued" []⟩

/-- Two tenants submit; the Run of the first is claimed and cancelled, then that of the second is
claimed. -/
def sharedHistory : List RunRequest :=
  [tenantSubmission "run_a" "acme" "09:00", tenantSubmission "run_b" "globex" "10:00",
    ⟨sampleReading 0 "1", .claimNextRun "worker" 30 none⟩,
    ⟨sampleReading 5 "2", .requestCancelAtomically "run_a" "acme"⟩,
    ⟨sampleReading 10 "3", .claimNextRun "worker" 30 none⟩]

theorem second_tenant_is_isolated :
    (concerning sampleHasher "globex" sharedHistory).length = 2 ∧
      answers sampleHasher (concerning sampleHasher "globex" sharedHistory) =
        answersConcerning sampleHasher "globex" sharedHistory := by
  have hids : RunIdsOfTenants sharedHistory := by
    intro first hfirst second hsecond run other hrun hother hid
    simp only [sharedHistory, List.mem_cons, List.not_mem_nil, or_false] at hfirst hsecond
    rcases hfirst with rfl | rfl | rfl | rfl | rfl <;> cases hrun <;>
      rcases hsecond with rfl | rfl | rfl | rfl | rfl <;> cases hother
    · rfl
    · exact absurd hid (by decide)
    · exact absurd hid (by decide)
    · rfl
  refine ⟨by decide +kernel, ?_⟩
  exact (tenants_are_isolated sampleHasher "globex" sharedHistory hids).1

end AgentRuntime.Store
