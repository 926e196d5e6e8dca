import AgentRuntime.Postgres.RunOperations
import AgentRuntime.Store.ThreadSerialization

/-!
# Two Run stores, one machine

`PostgresRunStore` and `SQLiteRunStore` answer every serial history of requests alike, as long as
each request is `Portable`: its texts are free of NUL characters, the counters that it raises fit an
`INTEGER` column, and it is not a creation whose client state the SQLite store would accept
(`run_stores_agree`). The last condition is a defect of the second store: the key of its advisory
lock joins tenant and thread with a NUL character, so psycopg refuses it and no thread can be seeded
(`client_state_is_refused`).

Most operations of the second store are the first store's with their exceptions wrapped
(`… = lift …`). The claim differs in its candidate query; `claimCandidate_eq` shows that the oldest
candidate is the same. The index violation that the second store reads as an empty queue never
occurs, since at most one Run of a thread is RUNNING.
-/

set_option autoImplicit false
set_option relaxedAutoImplicit false

namespace AgentRuntime.Postgres

open Library Store

/-! ### Agreement of replies -/

/-- Both stores return one value, or both raise. -/
inductive Agree {α : Type} : Except StoreError α → Except PostgresError α → Prop
  | returned (value : α) : Agree (.ok value) (.ok value)
  | raised (error : StoreError) (other : PostgresError) : Agree (.error error) (.error other)

theorem agree_lift {α : Type} (reply : Except StoreError α) : Agree reply (lift reply) := by
  cases reply with
  | ok value => exact .returned value
  | error error => exact .raised error _

theorem agree_of_eq_lift {α : Type} {reply : Except StoreError α} {other : Except PostgresError α}
    (hlift : other = lift reply) : Agree reply other := by
  rw [hlift]
  exact agree_lift reply

theorem Agree.value_eq {α : Type} {value other : α} (hagree : Agree (.ok value) (.ok other)) :
    value = other := by
  cases hagree
  rfl

/-- Two computations in sequence agree when their parts do. -/
theorem Agree.bind {α β : Type} {first : Except StoreError α} {other : Except PostgresError α}
    {rest : α → Except StoreError β} {otherRest : α → Except PostgresError β}
    (hfirst : Agree first other)
    (hrest : ∀ value, first = .ok value → Agree (rest value) (otherRest value)) :
    Agree (first >>= rest) (other >>= otherRest) := by
  cases hfirst with
  | returned value => exact hrest value rfl
  | raised error other => exact .raised error other

/-! ### Requests that both stores can carry out -/

/-- The texts hold no NUL character. -/
def Clean (texts : List String) : Prop := ∀ text ∈ texts, hasNul text = false

instance (texts : List String) : Decidable (Clean texts) := List.decidableBAll _ texts

theorem Clean.subset {texts others : List String} (hclean : Clean texts)
    (hsubset : ∀ text ∈ others, text ∈ texts) : Clean others :=
  fun text hmem ↦ hclean text (hsubset text hmem)

/-- psycopg accepts texts without a NUL character. -/
theorem bindTexts_of_clean {texts : List String} (hclean : Clean texts) :
    bindTexts texts = .ok () := by
  have hany : texts.any hasNul = false := by
    rw [List.any_eq_false]
    intro text hmem
    simp [hclean text hmem]
  simp [bindTexts, hany]

/-- The texts that an operation sends to the database. -/
def callTexts : RunCall → List String
  | .createRun run => runTexts run
  | .createRunWithEvent run _ _ => runTexts run
  | .claimNextRun ownerId _ code => ownerId :: code.toList
  | .renewRunLease runId token _ => [runId, token]
  | .expireRunLease runId token => [runId, token]
  | .appendAttemptEvent runId token eventType _ => [runId, eventType] ++ token.toList
  | .appendControlPlaneEvent runId tenantId _ _ => [runId, tenantId]
  | .finalizeNextQueuedCancellation => []
  | .requestCancelAtomically runId tenantId => [runId, tenantId]
  | .commitReconciliationPending runId tenantId token code error =>
    [runId, tenantId, token, code, error]
  | .commitCompletedRun run token => [run.runId, run.tenantId, token] ++ run.outputMessage.toList
  | .commitCheckpointConflict run token _ => [run.runId, run.tenantId, token]
  | .quarantineCheckpointConflict run token _ => [run.runId, run.tenantId, token]
  | .commitCancelledRun run _ token => cancelTexts run ++ [token]
  | .commitFailedRun run token code error _ _ => [run.runId, run.tenantId, token, code, error]
  | .applyQuarantineResolution runId tenantId _ _ _ _ _ => [runId, tenantId]
  | .planQuarantineResolution runId tenantId _ _ => [runId, tenantId]
  | .verifyQuarantineResolution commit =>
    [commit.plan.target.identifier, commit.plan.thread.tenantId]
  | .getRunInternal runId => [runId]
  | .getRunForTenant runId tenantId => [runId, tenantId]
  | .getRunByClientRequestId tenantId clientRequestId => [tenantId, clientRequestId]
  | .listEvents runId _ => [runId]
  | .listEventsForTenant runId tenantId _ => [runId, tenantId]
  | .loadThreadStateSnapshot threadId tenantId _ _ _ _ => [tenantId, threadId]

/-- The clock texts and the random text that one transaction can store. -/
def readingTexts (reading : Reading) : List String :=
  [reading.utcNow 0, reading.utcNow 1, reading.utcNow 2, reading.uuid 0]

/-- The SQLite store accepts the record together with its client state: the record is pristine and
its keys are free, and its thread has neither a checkpoint nor an unfinished Run. -/
def seedAccepted (db : Database) (run : RunRecord) : Bool :=
  run.state.isSome && isNewQueuedRun run && (db.runs.find run.runId).isNone &&
    !clientRequestTaken db run.runId (runValues run) &&
    (db.threadStates.find (run.tenantId, run.threadId)).isNone && !threadHasNonterminal db run

/-- The operation creates a Run that seeds its thread with client state. -/
def seedsThread (db : Database) : RunCall → Bool
  | .createRun run => seedAccepted db run
  | .createRunWithEvent run eventType _ => eventType == "run.queued" && seedAccepted db run
  | _ => false

/-- The Run whose log the operation extends, if it extends one. -/
def loggedRun (db : Database) (nowMs : Int) : RunCall → Option String
  | .createRunWithEvent run _ _ | .commitCompletedRun run _ | .commitCheckpointConflict run _ _
  | .quarantineCheckpointConflict run _ _ | .commitCancelledRun run _ _
  | .commitFailedRun run _ _ _ _ _ => some run.runId
  | .appendAttemptEvent runId _ _ _ | .appendControlPlaneEvent runId _ _ _
  | .requestCancelAtomically runId _ | .applyQuarantineResolution runId _ _ _ _ _ _ => some runId
  | .claimNextRun .. => (Store.claimCandidate db nowMs).map Prod.fst
  | .finalizeNextQueuedCancellation =>
    ((db.runs.rows.filter fun entry ↦
      entry.2.status == .queued && entry.2.cancelRequested).argmin creationOrder).map Prod.fst
  | _ => none

/-- A Run's events leave room for `count` more in an `INTEGER` column. -/
def EventRoom (count : Nat) (runId : String) (events : List EventRow) : Prop :=
  ∀ event ∈ events, event.runId = runId → (event.sequence : Int) + count ≤ maxInteger

instance (count : Nat) (runId : String) (events : List EventRow) :
    Decidable (EventRoom count runId events) := by
  unfold EventRoom
  infer_instance

/-- The attempt that the operation stores fits its column; only a claim and a cancelling commit
store one. -/
def attemptFits (db : Database) (nowMs : Int) : RunCall → Prop
  | .claimNextRun .. => ∀ entry ∈ Store.claimCandidate db nowMs,
    -maxInteger - 1 ≤ entry.2.attempt + 1 ∧ entry.2.attempt + 1 ≤ maxInteger
  | .commitCancelledRun run _ _ => -maxInteger - 1 ≤ run.attempt ∧ run.attempt ≤ maxInteger
  | _ => True

instance (db : Database) (nowMs : Int) (call : RunCall) :
    Decidable (attemptFits db nowMs call) := by
  unfold attemptFits
  split <;> infer_instance

/-- The checkpoint that the operation replaces has a next revision. -/
def revisionFits (db : Database) : RunCall → Prop
  | .commitCompletedRun run _ => ∀ row ∈ findRunForTenant db run.runId run.tenantId,
    ∀ checkpoint ∈ db.threadStates.find (run.tenantId, row.threadId),
      (checkpoint.revision : Int) < maxInteger
  | _ => True

instance (db : Database) (call : RunCall) : Decidable (revisionFits db call) := by
  unfold revisionFits
  split <;> infer_instance

/-- The counters that the operation raises leave room in their `INTEGER` columns. -/
def CountersFit (db : Database) (nowMs : Int) (call : RunCall) : Prop :=
  (∀ runId ∈ loggedRun db nowMs call, EventRoom 2 runId db.runEvents) ∧
    attemptFits db nowMs call ∧ revisionFits db call

instance (db : Database) (nowMs : Int) (call : RunCall) :
    Decidable (CountersFit db nowMs call) := by
  unfold CountersFit
  infer_instance

/-- An operation of the Run store together with what it reads from outside the database. -/
structure RunRequest where
  reading : Reading
  call : RunCall

/-- The second store can carry the request out as the first one does. -/
def Portable (db : Database) (request : RunRequest) : Prop :=
  Clean (callTexts request.call) ∧ Clean (readingTexts request.reading) ∧
    seedsThread db request.call = false ∧ CountersFit db request.reading.nowMs request.call

instance (db : Database) (request : RunRequest) : Decidable (Portable db request) := by
  unfold Portable
  infer_instance

/-! ### Events -/

theorem nextSequence_le {count : Nat} {runId : String} {events : List EventRow}
    (hroom : EventRoom (count + 1) runId events) (hcount : (count : Int) + 1 ≤ maxInteger) :
    (nextSequence events runId : Int) + count ≤ maxInteger := by
  unfold nextSequence
  have hmax : ((((events.filter fun event ↦ event.runId == runId).map EventRow.sequence).foldr
      max 0 : Nat) : Int) + (count + 1) ≤ maxInteger := by
    induction events with
    | nil =>
      rw [List.filter_nil, List.map_nil, List.foldr_nil, Int.natCast_zero, Int.zero_add]
      exact hcount
    | cons event rest ih =>
      have hrest := ih fun other hmem ↦ hroom other (List.mem_cons_of_mem _ hmem)
      by_cases hrun : (event.runId == runId) = true
      · have hevent := hroom event List.mem_cons_self (beq_iff_eq.mp hrun)
        simp only [List.filter_cons, hrun, if_true, List.map_cons, List.foldr_cons]
        push_cast at hrest hevent ⊢
        omega
      · simp only [List.filter_cons, hrun]
        exact hrest
  push_cast
  omega

/-- An event of a present Run is appended as the first store appends it. -/
theorem appendRunEvent_eq {db : Database} {count : Nat} {runId eventType createdAt : String}
    (payload : Payload) (hfind : (db.runs.find runId).isSome = true)
    (hclean : Clean [eventType, createdAt]) (hroom : EventRoom (count + 1) runId db.runEvents)
    (hcount : (count : Int) + 1 ≤ maxInteger) :
    appendRunEvent db runId eventType payload createdAt =
      .ok (Store.appendRunEvent db runId eventType payload createdAt) := by
  have htexts : bindTexts [eventType, createdAt] = .ok () := bindTexts_of_clean hclean
  have hnext := nextSequence_le hroom hcount
  have hsequence : integerColumn (nextSequence db.runEvents runId) = .ok () := by
    have hlow : -maxInteger - 1 ≤ (nextSequence db.runEvents runId : Int) := by
      unfold maxInteger
      omega
    have hhigh : (nextSequence db.runEvents runId : Int) ≤ maxInteger := by omega
    simp [integerColumn, hlow, hhigh]
  have hpresent : (db.runs.find runId).isNone = false := by
    cases hcase : db.runs.find runId with
    | none => simp [hcase] at hfind
    | some row => rfl
  simp only [appendRunEvent, htexts, hsequence, hpresent]
  rfl

theorem EventRoom.appendRunEvent {db : Database} {count : Nat} {runId : String}
    (hroom : EventRoom (count + 1) runId db.runEvents) (hcount : (count : Int) + 1 ≤ maxInteger)
    (eventType : String) (payload : Payload) (createdAt : String) :
    EventRoom count runId
      (Store.appendRunEvent db runId eventType payload createdAt).runEvents := by
  intro event hmem hrun
  rcases List.mem_append.mp hmem with hold | hnew
  · have hevent := hroom event hold hrun
    push_cast at hevent
    omega
  · obtain rfl := List.mem_singleton.mp hnew
    exact nextSequence_le hroom hcount

/-! ### Creation -/

section Operations

variable {db : Database} {reading : Reading}

/-- Inserting a Run that is not yet there does not change which other Runs of its thread are
unfinished. -/
theorem threadHasNonterminal_insert (run : RunRecord) (hfresh : db.runs.find run.runId = none) :
    threadHasNonterminal { db with runs := db.runs.insert run.runId (runValues run) } run =
      threadHasNonterminal db run := by
  simp [threadHasNonterminal, Table.rows_insert_of_fresh _ _ _ hfresh]

/-- The key of the advisory lock always holds a NUL character. -/
theorem bindTexts_seedLockKey (tenantId threadId : String) :
    bindTexts [seedLockKey tenantId threadId] = .error .dataError := by
  have hmem : Char.ofNat 0 ∈ (seedLockKey tenantId threadId).toList := by
    unfold seedLockKey
    simp only [String.toList_append, String.toList_ofList]
    exact List.mem_append_left _ (List.mem_append_right _ List.mem_cons_self)
  have hnul : hasNul (seedLockKey tenantId threadId) = true := by
    unfold hasNul
    exact List.contains_iff_mem.mpr hmem
  simp only [bindTexts, List.any_cons, hnul, Bool.true_or, if_true]

theorem agree_assertNewQueuedRun (run : RunRecord) :
    Agree (Store.assertNewQueuedRun run) (assertNewQueuedRun run) :=
  agree_lift _

theorem agree_insertRun {run : RunRecord} (hclean : Clean (runTexts run))
    (hnew : isNewQueuedRun run = true) : Agree (Store.insertRun db run) (insertRun db run) := by
  have hattempt : run.attempt = 0 := by
    simp only [isNewQueuedRun, Bool.and_eq_true, beq_iff_eq] at hnew
    exact hnew.1.1.1.1.1.1.1.1.1.1.1.1.2
  have hcolumn : integerColumn run.attempt = .ok () := by
    rw [hattempt]
    rfl
  simp only [insertRun, bindTexts_of_clean hclean, hcolumn, Store.insertRun]
  change Agree _ (if _ then _ else _)
  split_ifs
  · exact .raised _ _
  · exact .raised _ _
  · exact .raised _ _
  · exact .returned _

/-- Without client state nothing is seeded; with it, the first store raises too, unless it would
accept the record. -/
theorem agree_prepareClientStateSeed {run : RunRecord} (hnew : isNewQueuedRun run = true)
    (hseed : seedAccepted db run = false) (hfresh : db.runs.find run.runId = none)
    (huntaken : clientRequestTaken db run.runId (runValues run) = false) :
    Agree
      (Store.prepareClientStateSeed
        { db with runs := db.runs.insert run.runId (runValues run) } run)
      (prepareClientStateSeed
        { db with runs := db.runs.insert run.runId (runValues run) } run) := by
  unfold Store.prepareClientStateSeed prepareClientStateSeed
  by_cases hstate : run.state.isNone = true
  · simp only [hstate, if_true]
    exact .returned _
  · have hsome : run.state.isSome = true := by
      cases hcase : run.state with
      | none => simp [hcase] at hstate
      | some state => rfl
    have hblocked : ((db.threadStates.find (run.tenantId, run.threadId)).isSome ||
        threadHasNonterminal db run) = true := by
      by_contra hfree
      simp [seedAccepted, hsome, hnew, hfresh, huntaken] at hseed hfree
      simp [hfree] at hseed
    rw [if_neg hstate, if_neg hstate, threadHasNonterminal_insert run hfresh, if_pos hblocked,
      bindTexts_seedLockKey]
    exact .raised _ _

/-- What `_insert_run_with_connection` returns. -/
theorem insertRun_eq_ok {run : RunRecord} {inserted : Database}
    (hok : Store.insertRun db run = .ok inserted) :
    db.runs.find run.runId = none ∧ clientRequestTaken db run.runId (runValues run) = false ∧
      inserted = { db with runs := db.runs.insert run.runId (runValues run) } := by
  unfold Store.insertRun at hok
  split_ifs at hok with hpresent htaken
  refine ⟨?_, by simpa using htaken, (Except.ok.inj hok).symm⟩
  simpa using hpresent

theorem agree_createRun {run : RunRecord} (hclean : Clean (runTexts run))
    (hseed : seedAccepted db run = false) : Agree (Store.createRun db run) (createRun db run) := by
  have hbind : Store.createRun db run = (do
      Store.assertNewQueuedRun run
      let inserted ← Store.insertRun db run
      Store.prepareClientStateSeed inserted run) := by
    unfold Store.createRun
    split
    · next hassert => rw [hassert]; rfl
    · next hassert =>
      rw [hassert]
      split
      · next hinsert => rw [hinsert]; rfl
      · next hinsert => rw [hinsert]; rfl
  rw [hbind]
  refine (agree_assertNewQueuedRun run).bind fun _ hassert ↦ ?_
  have hnew : isNewQueuedRun run = true := by
    unfold Store.assertNewQueuedRun at hassert
    split_ifs at hassert with hnew
    exact hnew
  refine (agree_insertRun hclean hnew).bind fun inserted hok ↦ ?_
  obtain ⟨hfresh, huntaken, rfl⟩ := insertRun_eq_ok hok
  exact agree_prepareClientStateSeed hnew hseed hfresh huntaken

/-- The tables a seeding step leaves: the Run is there, and no event was appended. -/
theorem prepareClientStateSeed_eq_ok {run seeded : RunRecord} {prepared : Database}
    (hok : Store.prepareClientStateSeed db run = .ok (seeded, prepared)) :
    prepared.runEvents = db.runEvents ∧
      ((db.runs.find run.runId).isSome = true → (prepared.runs.find run.runId).isSome = true) := by
  unfold Store.prepareClientStateSeed at hok
  split_ifs at hok
  · obtain ⟨-, rfl⟩ := Prod.mk.inj (Except.ok.inj hok)
    exact ⟨rfl, id⟩
  · obtain ⟨-, rfl⟩ := Prod.mk.inj (Except.ok.inj hok)
    refine ⟨rfl, fun hpresent ↦ ?_⟩
    simpa [updateRun] using hpresent

theorem agree_createRunWithEvent {run : RunRecord} {eventType : String} (payload : Payload)
    (hclean : Clean (runTexts run)) (hreading : Clean (readingTexts reading))
    (hroom : EventRoom 2 run.runId db.runEvents)
    (hseed : (eventType == "run.queued" && seedAccepted db run) = false) :
    Agree (Store.createRunWithEvent db reading run eventType payload)
      (createRunWithEvent db reading run eventType payload) := by
  have hbind : Store.createRunWithEvent db reading run eventType payload = (do
      Store.assertNewQueuedRun run
      if eventType ≠ "run.queued" then
        .error (.valueError "A new Run's initial event must be run.queued")
      else do
        let inserted ← Store.insertRun db run
        let prepared ← Store.prepareClientStateSeed inserted run
        .ok (prepared.1, Store.appendRunEvent prepared.2 run.runId eventType payload
          (reading.utcNow 0))) := by
    unfold Store.createRunWithEvent
    split
    · next hassert => rw [hassert]; rfl
    · next hassert =>
      rw [hassert]
      change _ = if _ then _ else _
      split_ifs
      · rfl
      · split
        · next hinsert => rw [hinsert]; rfl
        · next hinsert =>
          rw [hinsert]
          change _ = Except.bind (Store.prepareClientStateSeed _ run) _
          split
          · next hprepare => rw [hprepare]; rfl
          · next hprepare => rw [hprepare]; rfl
  rw [hbind]
  refine (agree_assertNewQueuedRun run).bind fun _ hassert ↦ ?_
  have hnew : isNewQueuedRun run = true := by
    unfold Store.assertNewQueuedRun at hassert
    split_ifs at hassert with hnew
    exact hnew
  by_cases htype : eventType = "run.queued"
  · rw [if_neg (not_not.mpr htype), if_neg (not_not.mpr htype)]
    have haccepted : seedAccepted db run = false := by simpa [htype] using hseed
    refine (agree_insertRun hclean hnew).bind fun inserted hok ↦ ?_
    obtain ⟨hfresh, huntaken, rfl⟩ := insertRun_eq_ok hok
    refine (agree_prepareClientStateSeed hnew haccepted hfresh huntaken).bind
      fun prepared hprepare ↦ ?_
    obtain ⟨hevents, hpresent⟩ := prepareClientStateSeed_eq_ok hprepare
    have hfind : (prepared.2.runs.find run.runId).isSome = true := by
      refine hpresent ?_
      simp [Table.find_insert_of_fresh _ _ _ _ hfresh]
    have hmore : EventRoom (1 + 1) run.runId prepared.2.runEvents := by
      rw [hevents]
      exact hroom
    have hsent : Clean [eventType, reading.utcNow 0] := by
      intro text hmem
      simp only [List.mem_cons, List.not_mem_nil, or_false] at hmem
      rcases hmem with rfl | rfl
      · rw [htype]
        decide
      · exact hreading _ (by simp [readingTexts])
    change Agree _ (Except.bind (appendRunEvent prepared.2 run.runId eventType payload _) _)
    rw [appendRunEvent_eq payload hfind hsent hmore (by decide)]
    exact .returned _
  · rw [if_pos htype, if_pos htype]
    exact .raised _ _

/-! ### Claims and leases -/

/-- A narrower filter has the same least element when it keeps the least element of the wider one
and no two elements tie. -/
theorem argmin_filter_eq {α β : Type} [LinearOrder β] (order : α → β) (items : List α)
    (narrow wide : α → Bool)
    (hinjective : ∀ first ∈ items, ∀ second ∈ items, order first = order second → first = second)
    (hnarrow : ∀ item ∈ items, narrow item = true → wide item = true)
    (hleast : ∀ item ∈ (items.filter wide).argmin order, narrow item = true) :
    (items.filter narrow).argmin order = (items.filter wide).argmin order := by
  have hsubset : ∀ item ∈ items.filter narrow, item ∈ items.filter wide := by
    intro item hmem
    obtain ⟨hitem, hkept⟩ := List.mem_filter.mp hmem
    exact List.mem_filter.mpr ⟨hitem, hnarrow item hitem hkept⟩
  cases hwide : (items.filter wide).argmin order with
  | none =>
    have hempty : items.filter wide = [] := List.argmin_eq_none.mp hwide
    refine List.argmin_eq_none.mpr (List.eq_nil_iff_forall_not_mem.mpr fun item hmem ↦ ?_)
    have hitem := hsubset item hmem
    rw [hempty] at hitem
    cases hitem
  | some least =>
    have hmem := List.argmin_mem hwide
    have hkept : least ∈ items.filter narrow :=
      List.mem_filter.mpr ⟨(List.mem_filter.mp hmem).1, hleast least hwide⟩
    cases hfound : (items.filter narrow).argmin order with
    | none =>
      rw [List.argmin_eq_none.mp hfound] at hkept
      cases hkept
    | some found =>
      have hfoundMem := List.argmin_mem hfound
      have hle : order found ≤ order least := List.le_of_mem_argmin hkept hfound
      have hge : order least ≤ order found :=
        List.le_of_mem_argmin (hsubset found hfoundMem) hwide
      rw [hinjective found (List.mem_filter.mp hfoundMem).1 least (List.mem_filter.mp hmem).1
        (le_antisymm hle hge)]

theorem creationOrder_injective (db : Database) :
    ∀ first ∈ db.runs.rows, ∀ second ∈ db.runs.rows,
      creationOrder first = creationOrder second → first = second := by
  rintro ⟨runId, row⟩ hfirst ⟨other, otherRow⟩ hsecond hequal
  have hpair : (row.createdAt, runId) = (otherRow.createdAt, other) := toLex.injective hequal
  obtain rfl : runId = other := (Prod.mk.inj hpair).2
  have hrow := (Table.mem_rows_iff _ _ _).mp hfirst
  have hotherRow := (Table.mem_rows_iff _ _ _).mp hsecond
  rw [Option.some.inj (hrow.symm.trans hotherRow)]

/-- A QUEUED Run that a claim may take is no older than the oldest candidate, so the oldest
candidate has no older QUEUED sibling. -/
theorem earlierQueued_of_least {nowMs : Int} {runId : String} {row : RunRow}
    (hcandidate : Store.claimCandidate db nowMs = some (runId, row))
    (hqueued : Store.queuedCandidate db row = true) : earlierQueued db runId row = false := by
  obtain ⟨-, -, hleast⟩ := claimCandidate_eq_some hcandidate
  obtain ⟨-, -, hidle⟩ := (queuedCandidate_iff db row).mp hqueued
  unfold earlierQueued
  rw [List.any_eq_false]
  rintro ⟨other, otherRow⟩ hmem hearlier
  simp only [Bool.and_eq_true, beq_iff_eq, Bool.not_eq_eq_eq_not, Bool.not_true,
    decide_eq_true_eq] at hearlier
  obtain ⟨⟨⟨hthread, hstatus⟩, huncancelled⟩, horder⟩ := hearlier
  have hother := (Table.mem_rows_iff _ _ _).mp hmem
  have hsibling : Store.queuedCandidate db otherRow = true := by
    refine (queuedCandidate_iff db otherRow).mpr ⟨hstatus, huncancelled, ?_⟩
    intro third thirdRow hthird hsame
    refine hidle third thirdRow hthird ?_
    rw [sameThread_iff] at hsame hthread ⊢
    exact ⟨hsame.1.trans hthread.1, hsame.2.trans hthread.2⟩
  have hclaimable : Store.claimable db other otherRow nowMs = true := by
    simp [Store.claimable, hsibling]
  exact absurd (hleast other otherRow hother hclaimable) (not_le.mpr horder)

/-- Both candidate queries select the same Run. -/
theorem claimCandidate_eq (db : Database) (nowMs : Int) :
    claimCandidate db nowMs = Store.claimCandidate db nowMs := by
  have hqueued : ∀ runId row, queuedCandidate db runId row =
      (Store.queuedCandidate db row && !earlierQueued db runId row) := by
    intro runId row
    rfl
  refine argmin_filter_eq creationOrder db.runs.rows _ _ (creationOrder_injective db) ?_ ?_
  · rintro ⟨runId, row⟩ - hclaimable
    simp only [claimable, hqueued, Bool.or_eq_true, Bool.and_eq_true] at hclaimable
    simp only [Store.claimable, Bool.or_eq_true]
    exact hclaimable.imp_left And.left
  · rintro ⟨runId, row⟩ hleast
    obtain ⟨-, hclaimable, -⟩ := claimCandidate_eq_some hleast
    simp only [claimable, hqueued, Bool.or_eq_true, Bool.and_eq_true]
    rcases Bool.or_eq_true_iff.mp hclaimable with hcandidate | hexpired
    · exact .inl ⟨hcandidate, by rw [earlierQueued_of_least hleast hcandidate]; rfl⟩
    · exact .inr hexpired

/-- The thread of the oldest candidate has no other RUNNING Run. -/
theorem threadOccupied_of_candidate (hone : OneRunningPerThread db) {nowMs : Int} {runId : String}
    {row : RunRow} (hcandidate : Store.claimCandidate db nowMs = some (runId, row)) :
    threadOccupied db runId row = false := by
  obtain ⟨hfind, hclaimable, -⟩ := claimCandidate_eq_some hcandidate
  by_contra hoccupied
  obtain ⟨other, otherRow, hother, hne, hthread, hrunning⟩ :=
    (threadOccupied_iff db runId row).mp (by simpa using hoccupied)
  rcases Bool.or_eq_true_iff.mp hclaimable with hqueued | hexpired
  · exact ((queuedCandidate_iff db row).mp hqueued).2.2 other otherRow hother hthread hrunning
  · simp only [expiredCandidate, Bool.and_eq_true, beq_iff_eq] at hexpired
    exact hne (hone other otherRow runId row hother hfind hrunning hexpired.1.1.1.1 hthread)

theorem readingTexts_clean {index : Nat} (hreading : Clean (readingTexts reading))
    (hindex : index < 3) : hasNul (reading.utcNow index) = false := by
  have hcases : index = 0 ∨ index = 1 ∨ index = 2 := by omega
  refine hreading _ ?_
  rcases hcases with rfl | rfl | rfl <;> simp [readingTexts]

/-- An event of an operation on one Run is stored as the first store stores it. -/
theorem appendRunEvent_note {count index : Nat} {runId eventType : String} (payload : Payload)
    (hreading : Clean (readingTexts reading)) (htype : hasNul eventType = false)
    (hindex : index < 3)
    (hfind : (db.runs.find runId).isSome = true)
    (hroom : EventRoom (count + 1) runId db.runEvents)
    (hcount : count < 2) :
    appendRunEvent db runId eventType payload (reading.utcNow index) =
      .ok (Store.appendRunEvent db runId eventType payload (reading.utcNow index)) := by
  refine appendRunEvent_eq payload hfind ?_ hroom ?_
  · intro text hmem
    simp only [List.mem_cons, List.not_mem_nil, or_false] at hmem
    rcases hmem with rfl | rfl
    · exact htype
    · exact readingTexts_clean hreading hindex
  · unfold maxInteger
    omega

/-- The first event after an update of its Run. -/
theorem appendRunEvent_updated {index : Nat} {runId eventType : String} {row : RunRow}
    (change : RunRow → RunRow) (payload : Payload) (hreading : Clean (readingTexts reading))
    (hroom : EventRoom 2 runId db.runEvents) (hfind : db.runs.find runId = some row)
    (htype : hasNul eventType = false) (hindex : index < 3) :
    appendRunEvent (updateRun db runId change) runId eventType payload (reading.utcNow index) =
      .ok (Store.appendRunEvent (updateRun db runId change) runId eventType payload
        (reading.utcNow index)) := by
  have hpresent : ((updateRun db runId change).runs.find runId).isSome = true := by
    simp [updateRun, hfind]
  have hsame : EventRoom (1 + 1) runId (updateRun db runId change).runEvents := hroom
  exact appendRunEvent_note payload hreading htype hindex hpresent hsame (by decide)

/-- The second event of a transaction that appended one. -/
theorem appendRunEvent_second {index : Nat} {runId eventType firstType createdAt : String}
    (firstPayload payload : Payload) (hreading : Clean (readingTexts reading))
    (hroom : EventRoom 2 runId db.runEvents) {updated : Database}
    (hevents : updated.runEvents = db.runEvents)
    (hpresent : (updated.runs.find runId).isSome = true) (htype : hasNul eventType = false)
    (hindex : index < 3) :
    appendRunEvent (Store.appendRunEvent updated runId firstType firstPayload createdAt) runId
        eventType payload (reading.utcNow index) =
      .ok (Store.appendRunEvent
        (Store.appendRunEvent updated runId firstType firstPayload createdAt) runId eventType
        payload (reading.utcNow index)) := by
  have hsame : EventRoom (1 + 1) runId updated.runEvents := by
    rw [hevents]
    exact hroom
  have hmore := hsame.appendRunEvent (by decide) firstType firstPayload createdAt
  exact appendRunEvent_note payload hreading htype hindex hpresent hmore (by decide)

/-- The second event after an update of its Run. -/
theorem appendRunEvent_updated_second {index : Nat} {runId eventType firstType createdAt : String}
    {row : RunRow} (change : RunRow → RunRow) (firstPayload payload : Payload)
    (hreading : Clean (readingTexts reading)) (hroom : EventRoom 2 runId db.runEvents)
    (hfind : db.runs.find runId = some row) (htype : hasNul eventType = false)
    (hindex : index < 3) :
    appendRunEvent
        (Store.appendRunEvent (updateRun db runId change) runId firstType firstPayload createdAt)
        runId eventType payload (reading.utcNow index) =
      .ok (Store.appendRunEvent
        (Store.appendRunEvent (updateRun db runId change) runId firstType firstPayload createdAt)
        runId eventType payload (reading.utcNow index)) := by
  have hpresent : ((updateRun db runId change).runs.find runId).isSome = true := by
    simp [updateRun, hfind]
  exact appendRunEvent_second firstPayload payload hreading hroom rfl hpresent htype hindex

/-- The events of a claim are stored as the first store stores them. -/
theorem claimEvents_eq {runId : String} {row claimed : RunRow} (code : Option String)
    (hreading : Clean (readingTexts reading)) (hroom : EventRoom 2 runId db.runEvents)
    (hfind : db.runs.find runId = some row) :
    (do
      let recovered ← appendRecoveredEvent (updateRun db runId fun _ ↦ claimed) runId row code
        (reading.utcNow 1)
      appendRunEvent recovered runId "run.started" (startedPayload row claimed)
        (reading.utcNow 2)) =
      .ok (Store.appendRunEvent
        (Store.appendRecoveredEvent (updateRun db runId fun _ ↦ claimed) runId row code
          (reading.utcNow 1)) runId "run.started" (startedPayload row claimed)
        (reading.utcNow 2)) := by
  unfold appendRecoveredEvent Store.appendRecoveredEvent
  cases hreason : recoveryReason row with
  | none => exact appendRunEvent_updated _ _ hreading hroom hfind (by decide) (by decide)
  | some reason =>
    simp only
    rw [appendRunEvent_updated _ _ hreading hroom hfind (by decide) (by decide)]
    exact appendRunEvent_updated_second _ _ _ hreading hroom hfind (by decide) (by decide)

theorem agree_claimNextRun {ownerId : String} {duration : Int} {code : Option String}
    (hone : OneRunningPerThread db) (hclean : Clean (ownerId :: code.toList))
    (hreading : Clean (readingTexts reading))
    (hroom : ∀ runId ∈ (Store.claimCandidate db reading.nowMs).map Prod.fst,
      EventRoom 2 runId db.runEvents)
    (hattempts : ∀ entry ∈ Store.claimCandidate db reading.nowMs,
      -maxInteger - 1 ≤ entry.2.attempt + 1 ∧ entry.2.attempt + 1 ≤ maxInteger) :
    Agree (Store.claimNextRun db reading ownerId duration code)
      (claimNextRun db reading ownerId duration code) := by
  unfold Store.claimNextRun claimNextRun
  by_cases hempty : ownerId.isEmpty = true
  · rw [if_pos hempty, if_pos hempty]
    exact .raised _ _
  by_cases hduration : duration ≤ 0
  · rw [if_neg hempty, if_neg hempty, if_pos hduration, if_pos hduration]
    exact .raised _ _
  rw [if_neg hempty, if_neg hempty, if_neg hduration, if_neg hduration, claimCandidate_eq]
  cases hcandidate : Store.claimCandidate db reading.nowMs with
  | none => exact .returned _
  | some entry =>
    obtain ⟨runId, row⟩ := entry
    obtain ⟨hfind, -, -⟩ := claimCandidate_eq_some hcandidate
    have htoken : hasNul ("lease_" ++ reading.uuid 0) = false := by
      have huuid : hasNul (reading.uuid 0) = false := hreading _ (by simp [readingTexts])
      simp only [hasNul, List.contains_eq_mem, decide_eq_false_iff_not] at huuid ⊢
      rw [String.toList_append, List.mem_append, not_or]
      exact ⟨by decide, huuid⟩
    have hsent : Clean ([reading.utcNow 0, ownerId, "lease_" ++ reading.uuid 0] ++
        code.toList) := by
      intro text hmem
      simp only [List.cons_append, List.nil_append, List.mem_cons] at hmem
      rcases hmem with rfl | rfl | rfl | hcode
      · exact readingTexts_clean hreading (by decide)
      · exact hclean _ List.mem_cons_self
      · exact htoken
      · exact hclean _ (List.mem_cons_of_mem _ hcode)
    have hattempt : integerColumn (row.attempt + 1) = .ok () := by
      have hbounds : -maxInteger - 1 ≤ row.attempt + 1 ∧ row.attempt + 1 ≤ maxInteger :=
        hattempts (runId, row) hcandidate
      simp only [integerColumn, if_pos hbounds]
    simp only [bindTexts_of_clean hsent]
    change Agree _ (if _ then _ else _)
    by_cases hupdatable : claimUpdatable db runId row reading.nowMs = true
    · rw [if_pos hupdatable, if_pos hupdatable]
      have hfree := threadOccupied_of_candidate hone hcandidate
      have hcolumn : ∀ timestamp nowMs expiresAt, integerColumn (claimedRow db row ownerId
          ("lease_" ++ reading.uuid 0) timestamp nowMs expiresAt code).attempt = .ok () :=
        fun _ _ _ ↦ hattempt
      simp only [hcolumn, hfree]
      change Agree (Except.ok _) (appendRecoveredEvent _ runId row code _ >>= fun recovered ↦
        appendRunEvent recovered runId "run.started" _ _ >>= fun started ↦
          Except.ok (_, started))
      have hevents : EventRoom 2 runId db.runEvents :=
        hroom runId (Option.mem_map_of_mem Prod.fst hcandidate)
      rw [← bind_assoc, claimEvents_eq code hreading hevents hfind]
      exact .returned _
    · rw [if_neg hupdatable, if_neg hupdatable]
      exact .returned _

theorem renewRunLease_eq {runId leaseToken : String} (duration : Int)
    (hclean : Clean [runId, leaseToken]) (hreading : Clean (readingTexts reading)) :
    renewRunLease db reading runId leaseToken duration =
      lift (Store.renewRunLease db reading runId leaseToken duration) := by
  have hsent : bindTexts [reading.utcNow 0, runId, leaseToken] = .ok () := by
    refine bindTexts_of_clean fun text hmem ↦ ?_
    rcases List.mem_cons.mp hmem with rfl | hrest
    · exact readingTexts_clean hreading (by decide)
    · exact hclean text hrest
  unfold renewRunLease Store.renewRunLease
  by_cases hempty : leaseToken.isEmpty = true
  · rw [if_pos hempty, if_pos hempty]
    rfl
  by_cases hduration : duration ≤ 0
  · rw [if_neg hempty, if_neg hempty, if_pos hduration, if_pos hduration]
    rfl
  rw [if_neg hempty, if_neg hempty, if_neg hduration, if_neg hduration, hsent]
  cases currentAttempt db runId leaseToken reading.nowMs <;> rfl

theorem expireRunLease_eq {runId leaseToken : String} (hclean : Clean [runId, leaseToken])
    (hreading : Clean (readingTexts reading)) :
    expireRunLease db reading runId leaseToken =
      lift (Store.expireRunLease db reading runId leaseToken) := by
  have hsent : bindTexts [reading.utcNow 0, runId, leaseToken] = .ok () := by
    refine bindTexts_of_clean fun text hmem ↦ ?_
    rcases List.mem_cons.mp hmem with rfl | hrest
    · exact readingTexts_clean hreading (by decide)
    · exact hclean text hrest
  unfold expireRunLease Store.expireRunLease
  by_cases hempty : leaseToken.isEmpty = true
  · rw [if_pos hempty, if_pos hempty]
    rfl
  rw [if_neg hempty, if_neg hempty, hsent]
  cases hcase : (db.runs.find runId).filter fun row ↦
    row.status == .running && row.leaseToken == some leaseToken <;> rfl

theorem assertCurrentRunLease_eq {nowMs : Int} {runId : String} {leaseToken : Option String}
    (hclean : Clean (runId :: leaseToken.toList)) :
    assertCurrentRunLease db nowMs runId leaseToken =
      lift (Store.assertCurrentRunLease db nowMs runId leaseToken) := by
  unfold assertCurrentRunLease Store.assertCurrentRunLease
  cases leaseToken with
  | none => rfl
  | some token =>
    have hsent : bindTexts [runId, token] = .ok () := bindTexts_of_clean hclean
    simp only [hsent]
    cases currentAttempt db runId token nowMs <;> rfl

/-- A Run under a current lease is present. -/
theorem find_of_assertCurrentRunLease {nowMs : Int} {runId : String} {leaseToken : Option String}
    (hok : Store.assertCurrentRunLease db nowMs runId leaseToken = .ok ()) :
    (db.runs.find runId).isSome = true := by
  unfold Store.assertCurrentRunLease at hok
  cases leaseToken with
  | none => cases hok
  | some token =>
    cases hattempt : currentAttempt db runId token nowMs with
    | none => simp [hattempt] at hok
    | some row =>
      rw [((currentAttempt_eq_some_iff _ _ _ _ _).mp hattempt).1]
      rfl

theorem appendAttemptEvent_eq {runId eventType : String} {leaseToken : Option String}
    (payload : Payload) (hclean : Clean ([runId, eventType] ++ leaseToken.toList))
    (hreading : Clean (readingTexts reading)) (hroom : EventRoom 2 runId db.runEvents) :
    appendAttemptEvent db reading runId leaseToken eventType payload =
      lift (Store.appendAttemptEvent db reading runId leaseToken eventType payload) := by
  have hlease : Clean (runId :: leaseToken.toList) := by
    refine hclean.subset fun text hmem ↦ ?_
    rcases List.mem_cons.mp hmem with rfl | htoken
    · exact List.mem_append_left _ List.mem_cons_self
    · exact List.mem_append_right _ htoken
  have htype : hasNul eventType = false := hclean _ (by simp)
  unfold appendAttemptEvent Store.appendAttemptEvent
  rw [assertCurrentRunLease_eq hlease]
  cases hassert : Store.assertCurrentRunLease db reading.nowMs runId leaseToken with
  | error error => rfl
  | ok _ =>
    change (appendRunEvent db runId eventType payload _ >>= _) = _
    rw [appendRunEvent_note payload hreading htype (by decide)
      (find_of_assertCurrentRunLease hassert) hroom (by decide)]
    rfl

theorem appendControlPlaneEvent_eq {runId tenantId eventType : String} (payload : Payload)
    (hclean : Clean [runId, tenantId]) (hreading : Clean (readingTexts reading))
    (hroom : EventRoom 2 runId db.runEvents) :
    appendControlPlaneEvent db reading runId tenantId eventType payload =
      lift (Store.appendControlPlaneEvent db reading runId tenantId eventType payload) := by
  unfold appendControlPlaneEvent Store.appendControlPlaneEvent
  by_cases htype : eventType ∉ controlPlaneEventTypes
  · rw [if_pos htype, if_pos htype]
    rfl
  rw [if_neg htype, if_neg htype, bindTexts_of_clean hclean]
  cases hfind : findRunForTenant db runId tenantId with
  | none => rfl
  | some row =>
    have hpresent : (db.runs.find runId).isSome = true := by
      rw [((findRunForTenant_eq_some_iff _ _ _ _).mp hfind).1]
      rfl
    have hplain : hasNul eventType = false := by
      simp only [controlPlaneEventTypes, List.mem_cons, List.not_mem_nil, or_false, not_not]
        at htype
      rcases htype with rfl | rfl <;> decide
    change (appendRunEvent db runId eventType payload _ >>= _) = _
    rw [appendRunEvent_note payload hreading hplain (by decide) hpresent hroom (by decide)]
    rfl

/-! ### Cancellation -/

theorem finalizeNextQueuedCancellation_eq (hreading : Clean (readingTexts reading))
    (hroom : ∀ runId ∈ ((db.runs.rows.filter fun entry ↦
        entry.2.status == .queued && entry.2.cancelRequested).argmin creationOrder).map Prod.fst,
      EventRoom 2 runId db.runEvents) :
    finalizeNextQueuedCancellation db reading =
      lift (Store.finalizeNextQueuedCancellation db reading) := by
  unfold finalizeNextQueuedCancellation Store.finalizeNextQueuedCancellation
  have hsent : bindTexts [reading.utcNow 0] = .ok () :=
    bindTexts_of_clean (hreading.subset (by simp [readingTexts]))
  cases hcandidate : (db.runs.rows.filter fun entry ↦
      entry.2.status == .queued && entry.2.cancelRequested).argmin creationOrder with
  | none => rfl
  | some entry =>
    obtain ⟨runId, row⟩ := entry
    have hfind : db.runs.find runId = some row :=
      (Table.mem_rows_iff _ _ _).mp (List.mem_filter.mp (List.argmin_mem hcandidate)).1
    have hevents : EventRoom 2 runId db.runEvents :=
      hroom runId (Option.mem_map_of_mem Prod.fst hcandidate)
    simp only [hsent]
    change (appendRunEvent _ runId "run.cancelled" _ _ >>= _) = _
    rw [appendRunEvent_updated _ _ hreading hevents hfind (by decide) (by decide)]
    rfl

theorem requestCancelAtomically_eq {runId tenantId : String} (hclean : Clean [runId, tenantId])
    (hreading : Clean (readingTexts reading)) (hroom : EventRoom 2 runId db.runEvents) :
    requestCancelAtomically db reading runId tenantId =
      lift (Store.requestCancelAtomically db reading runId tenantId) := by
  unfold requestCancelAtomically Store.requestCancelAtomically
  have hsent : bindTexts [reading.utcNow 0] = .ok () :=
    bindTexts_of_clean (hreading.subset (by simp [readingTexts]))
  simp only [bindTexts_of_clean hclean]
  cases hfind : findRunForTenant db runId tenantId with
  | none => rfl
  | some row =>
    have hrow := ((findRunForTenant_eq_some_iff _ _ _ _).mp hfind).1
    simp only [hsent]
    change (if _ then _ else _) = _
    split_ifs
    · rw [appendRunEvent_updated _ _ hreading hroom hrow (by decide) (by decide)]
      rfl
    · rfl

/-! ### Fenced commits -/

theorem classifyCommitOutcome_eq {runId tenantId : String} (leaseToken : String) (nowMs : Int)
    (hclean : Clean [runId, tenantId]) :
    classifyCommitOutcome db runId tenantId leaseToken nowMs =
      lift (Store.classifyCommitOutcome db runId tenantId leaseToken nowMs) := by
  unfold classifyCommitOutcome Store.classifyCommitOutcome
  simp only [bindTexts_of_clean hclean]
  cases findRunForTenant db runId tenantId with
  | none => rfl
  | some row =>
    change (if _ then _ else _) = _
    simp only
    split_ifs <;> rfl

theorem refuseCommit_eq {run : RunRecord} (leaseToken : String) (nowMs : Int)
    (hclean : Clean [run.runId, run.tenantId]) :
    refuseCommit db run leaseToken nowMs = lift (Store.refuseCommit db run leaseToken nowMs) := by
  unfold refuseCommit Store.refuseCommit
  rw [classifyCommitOutcome_eq leaseToken nowMs hclean]
  cases Store.classifyCommitOutcome db run.runId run.tenantId leaseToken nowMs <;> rfl

theorem commitReconciliationPending_eq {runId tenantId leaseToken errorCode error : String}
    (hclean : Clean [runId, tenantId, leaseToken, errorCode, error])
    (hreading : Clean (readingTexts reading)) :
    commitReconciliationPending db reading runId tenantId leaseToken errorCode error =
      lift (Store.commitReconciliationPending db reading runId tenantId leaseToken errorCode
        error) := by
  have hsent : bindTexts [errorCode, error, reading.utcNow 0, runId, tenantId, leaseToken] =
      .ok () := by
    refine bindTexts_of_clean fun text hmem ↦ ?_
    by_cases htime : text = reading.utcNow 0
    · rw [htime]
      exact readingTexts_clean hreading (by decide)
    · refine hclean text ?_
      simp only [List.mem_cons, List.not_mem_nil, or_false] at hmem ⊢
      tauto
  unfold commitReconciliationPending Store.commitReconciliationPending
  rw [hsent, classifyCommitOutcome_eq leaseToken reading.nowMs (hclean.subset (by simp))]
  cases (currentAttempt db runId leaseToken reading.nowMs).filter
      fun row ↦ row.tenantId == tenantId with
  | some row => rfl
  | none => cases Store.classifyCommitOutcome db runId tenantId leaseToken reading.nowMs <;> rfl

theorem failCheckpointConflict_eq {runId tenantId leaseToken : String} (expected : Option Nat)
    (observed : Nat) (phase : String) (hclean : Clean [runId, tenantId, leaseToken])
    (hreading : Clean (readingTexts reading)) (hroom : EventRoom 2 runId db.runEvents) :
    failCheckpointConflict db reading runId tenantId leaseToken expected observed phase =
      lift (Store.failCheckpointConflict db reading runId tenantId leaseToken expected observed
        phase) := by
  have hsent : bindTexts [reading.utcNow 0, runId, tenantId, leaseToken] = .ok () := by
    refine bindTexts_of_clean fun text hmem ↦ ?_
    rcases List.mem_cons.mp hmem with rfl | hrest
    · exact readingTexts_clean hreading (by decide)
    · exact hclean text hrest
  unfold failCheckpointConflict Store.failCheckpointConflict
  simp only [hsent]
  cases hattempt : (currentAttempt db runId leaseToken reading.nowMs).filter
      fun row ↦ row.tenantId == tenantId && !row.cancelRequested with
  | none => rfl
  | some row =>
    have hcurrent := (Option.filter_eq_some_iff.mp hattempt).1
    have hfind := ((currentAttempt_eq_some_iff _ _ _ _ _).mp hcurrent).1
    change (appendRunEvent _ runId "checkpoint.conflict" _ _ >>= _) = _
    rw [appendRunEvent_updated _ _ hreading hroom hfind (by decide) (by decide)]
    exact appendRunEvent_updated_second _ _ _ hreading hroom hfind (by decide) (by decide)

theorem commitCheckpointConflict_eq {run : RunRecord} {leaseToken : String} (phase : String)
    (hclean : Clean [run.runId, run.tenantId, leaseToken])
    (hreading : Clean (readingTexts reading)) (hroom : EventRoom 2 run.runId db.runEvents) :
    commitCheckpointConflict db reading run leaseToken phase =
      lift (Store.commitCheckpointConflict db reading run leaseToken phase) := by
  have hkeys : Clean [run.runId, run.tenantId] := hclean.subset (by simp)
  unfold commitCheckpointConflict Store.commitCheckpointConflict
  simp only [bindTexts_of_clean hkeys, refuseCommit_eq leaseToken reading.nowMs hkeys,
    failCheckpointConflict_eq _ _ phase hclean hreading hroom]
  cases findRunForTenant db run.runId run.tenantId with
  | none => rfl
  | some persisted =>
    change (if _ then _ else _) = _
    simp only
    split_ifs
    · rfl
    · cases Store.failCheckpointConflict db reading run.runId run.tenantId leaseToken
        persisted.checkpointBaseRevision _ phase <;> rfl

/-- The compare-and-set on the revision just observed succeeds, as in the first store. -/
theorem writeCheckpoint_eq (updated : Database) (tenantId threadId : String)
    (checkpoint : ThreadStateRow)
    (hrevision : ∀ existing ∈ db.threadStates.find (tenantId, threadId),
      (existing.revision : Int) < maxInteger)
    (hstates : updated.threadStates = db.threadStates) :
    ∃ saved : Database,
      writeCheckpoint updated tenantId threadId (threadRevision db tenantId threadId) checkpoint =
        .ok (some saved) ∧
      Store.saveCheckpoint updated tenantId threadId (threadRevision db tenantId threadId)
        checkpoint = .ok saved ∧
      saved.runs = updated.runs ∧ saved.runEvents = updated.runEvents := by
  unfold writeCheckpoint Store.saveCheckpoint threadRevision
  rw [hstates]
  cases hexisting : db.threadStates.find (tenantId, threadId) with
  | none => exact ⟨_, rfl, rfl, rfl, rfl⟩
  | some existing =>
    have hbound := hrevision existing hexisting
    have hcolumn : integerColumn ((existing.revision : Int) + 1) = .ok () := by
      have hbounds : -maxInteger - 1 ≤ (existing.revision : Int) + 1 ∧
          (existing.revision : Int) + 1 ≤ maxInteger := by
        constructor
        · unfold maxInteger
          omega
        · omega
      simp only [integerColumn, if_pos hbounds]
    simp only [if_true, hcolumn]
    exact ⟨_, rfl, rfl, rfl, rfl⟩

theorem commitCompletedRun_eq {run : RunRecord} {leaseToken : String}
    (hclean : Clean ([run.runId, run.tenantId, leaseToken] ++ run.outputMessage.toList))
    (hreading : Clean (readingTexts reading)) (hroom : EventRoom 2 run.runId db.runEvents)
    (hrevision : ∀ row ∈ findRunForTenant db run.runId run.tenantId,
      ∀ checkpoint ∈ db.threadStates.find (run.tenantId, row.threadId),
        (checkpoint.revision : Int) < maxInteger) :
    commitCompletedRun db reading run leaseToken =
      lift (Store.commitCompletedRun db reading run leaseToken) := by
  have hfence : Clean [run.runId, run.tenantId, leaseToken] :=
    hclean.subset fun text hmem ↦ List.mem_append_left _ hmem
  have hkeys : Clean [run.runId, run.tenantId] := hfence.subset (by simp)
  have hsent : bindTexts (run.outputMessage.toList ++ [reading.utcNow 0, leaseToken]) = .ok () := by
    refine bindTexts_of_clean fun text hmem ↦ ?_
    rcases List.mem_append.mp hmem with houtput | hrest
    · exact hclean text (List.mem_append_right _ houtput)
    · rcases List.mem_cons.mp hrest with rfl | htoken
      · exact readingTexts_clean hreading (by decide)
      · refine hfence text ?_
        simp only [List.mem_singleton] at htoken
        simp [htoken]
  unfold commitCompletedRun Store.commitCompletedRun
  simp only [bindTexts_of_clean hkeys, refuseCommit_eq leaseToken reading.nowMs hkeys,
    failCheckpointConflict_eq _ _ "completion" hfence hreading hroom, hsent]
  cases hfind : findRunForTenant db run.runId run.tenantId with
  | none => rfl
  | some persisted =>
    have hrow := ((findRunForTenant_eq_some_iff _ _ _ _).mp hfind).1
    by_cases hrefused : persisted.status ≠ .running ∨ persisted.cancelRequested = true ∨
        ¬ persisted.holdsLease leaseToken reading.nowMs = true
    · simp only [if_pos hrefused]
      rfl
    simp only [if_neg hrefused]
    cases hstate : run.state with
    | none => rfl
    | some state =>
      change (if _ then _ else _) = lift (if _ then _ else _)
      split_ifs with hdrift hidentity
      · cases Store.failCheckpointConflict db reading run.runId run.tenantId leaseToken
          persisted.checkpointBaseRevision (threadRevision db run.tenantId persisted.threadId)
          "completion" <;> rfl
      · rfl
      · cases assertThreadSchemaAvailable db run.tenantId persisted.threadId persisted.domainId
            persisted.schemaVersion with
        | error error => rfl
        | ok _ =>
          obtain ⟨saved, hwritten, hsaved, hruns, hevents⟩ := writeCheckpoint_eq
            (updateRun db run.runId fun row ↦ completedRow row run state (reading.utcNow 0))
            run.tenantId persisted.threadId
            { domainId := persisted.domainId
              schemaVersion := persisted.schemaVersion
              stateJson := (projectThreadCheckpointState state).toStateJson
              updatedAt := reading.utcNow 0
              revision := 0 } (hrevision persisted hfind) rfl
          have hpresent : (saved.runs.find run.runId).isSome = true := by
            rw [hruns]
            simp [updateRun, hrow]
          have hsame : EventRoom (1 + 1) run.runId saved.runEvents := by
            rw [hevents]
            exact hroom
          change (writeCheckpoint _ run.tenantId persisted.threadId _ _ >>= fun written ↦ _) = _
          rw [hwritten, hsaved]
          change (appendRunEvent saved run.runId "checkpoint.saved" _ _ >>= _) = _
          rw [appendRunEvent_note _ hreading (by decide) (by decide) hpresent hsame (by decide)]
          change (appendRunEvent _ run.runId "run.completed" _ _ >>= _) = _
          rw [appendRunEvent_second _ _ hreading hroom hevents hpresent (by decide) (by decide)]
          rfl

theorem quarantineCheckpointConflict_eq {run : RunRecord} {leaseToken : String} (phase : String)
    (hclean : Clean [run.runId, run.tenantId, leaseToken])
    (hreading : Clean (readingTexts reading)) (hroom : EventRoom 2 run.runId db.runEvents) :
    quarantineCheckpointConflict db reading run leaseToken phase =
      lift (Store.quarantineCheckpointConflict db reading run leaseToken phase) := by
  have hkeys : Clean [run.runId, run.tenantId] := hclean.subset (by simp)
  have hsent : bindTexts [reading.utcNow 0, leaseToken] = .ok () := by
    refine bindTexts_of_clean fun text hmem ↦ ?_
    rcases List.mem_cons.mp hmem with rfl | hrest
    · exact readingTexts_clean hreading (by decide)
    · exact hclean text (List.mem_cons_of_mem _ (List.mem_cons_of_mem _ hrest))
  unfold quarantineCheckpointConflict Store.quarantineCheckpointConflict
  simp only [bindTexts_of_clean hkeys, refuseCommit_eq leaseToken reading.nowMs hkeys, hsent]
  cases hfind : findRunForTenant db run.runId run.tenantId with
  | none => rfl
  | some persisted =>
    have hrow := ((findRunForTenant_eq_some_iff _ _ _ _).mp hfind).1
    change (if _ then _ else _) = lift (if _ then _ else _)
    split_ifs
    · rfl
    · rfl
    · change (appendRunEvent _ run.runId "checkpoint.conflict" _ _ >>= _) = _
      rw [appendRunEvent_updated _ _ hreading hroom hrow (by decide) (by decide)]
      rfl

theorem agree_commitCancelledRun {run : RunRecord} {leaseToken : String} (reason : String)
    (hclean : Clean (cancelTexts run ++ [leaseToken])) (hreading : Clean (readingTexts reading))
    (hroom : EventRoom 2 run.runId db.runEvents)
    (hattempt : -maxInteger - 1 ≤ run.attempt ∧ run.attempt ≤ maxInteger) :
    Agree (Store.commitCancelledRun db reading run reason leaseToken)
      (commitCancelledRun db reading run reason leaseToken) := by
  have hkeys : Clean [run.runId, run.tenantId] := hclean.subset (by simp [cancelTexts])
  have hsent : bindTexts (cancelTexts run ++ [reading.utcNow 0, leaseToken]) = .ok () := by
    refine bindTexts_of_clean fun text hmem ↦ ?_
    by_cases htime : text = reading.utcNow 0
    · rw [htime]
      exact readingTexts_clean hreading (by decide)
    · refine hclean text ?_
      simp only [List.mem_append, List.mem_cons, List.not_mem_nil, or_false] at hmem ⊢
      tauto
  have hcolumn : integerColumn run.attempt = .ok () := by
    simp only [integerColumn, if_pos hattempt]
  unfold commitCancelledRun Store.commitCancelledRun
  rw [hsent, hcolumn, refuseCommit_eq leaseToken reading.nowMs hkeys]
  cases heligible : (findRunForTenant db run.runId run.tenantId).filter fun row ↦
      (row.status == .queued || row.status == .running) && row.cancelRequested &&
        row.holdsLease leaseToken reading.nowMs with
  | none => exact agree_lift _
  | some row =>
    have hfind := (Option.filter_eq_some_iff.mp heligible).1
    have hrow := ((findRunForTenant_eq_some_iff _ _ _ _).mp hfind).1
    change Agree (if _ then _ else _) (if _ then _ else _)
    split_ifs
    · exact .raised _ _
    · rw [appendRunEvent_updated _ _ hreading hroom hrow (by decide) (by decide)]
      exact .returned _

theorem commitFailedRun_eq {run : RunRecord} {leaseToken errorCode error : String}
    (tracebackText : Option String) (allowCancelRequested : Bool)
    (hclean : Clean [run.runId, run.tenantId, leaseToken, errorCode, error])
    (hreading : Clean (readingTexts reading)) (hroom : EventRoom 2 run.runId db.runEvents) :
    commitFailedRun db reading run leaseToken errorCode error tracebackText
        allowCancelRequested =
      lift (Store.commitFailedRun db reading run leaseToken errorCode error tracebackText
        allowCancelRequested) := by
  have hkeys : Clean [run.runId, run.tenantId] := hclean.subset (by simp)
  have hsent : bindTexts [errorCode, error, reading.utcNow 0, run.runId, run.tenantId,
      leaseToken] = .ok () := by
    refine bindTexts_of_clean fun text hmem ↦ ?_
    by_cases htime : text = reading.utcNow 0
    · rw [htime]
      exact readingTexts_clean hreading (by decide)
    · refine hclean text ?_
      simp only [List.mem_cons, List.not_mem_nil, or_false] at hmem ⊢
      tauto
  unfold commitFailedRun Store.commitFailedRun
  rw [hsent, refuseCommit_eq leaseToken reading.nowMs hkeys]
  cases heligible : (currentAttempt db run.runId leaseToken reading.nowMs).filter fun row ↦
      row.tenantId == run.tenantId && (!row.cancelRequested || allowCancelRequested) with
  | none => rfl
  | some row =>
    have hcurrent := (Option.filter_eq_some_iff.mp heligible).1
    have hrow := ((currentAttempt_eq_some_iff _ _ _ _ _).mp hcurrent).1
    change (appendRunEvent _ run.runId "run.failed" _ _ >>= _) = _
    rw [appendRunEvent_updated _ _ hreading hroom hrow (by decide) (by decide)]
    rfl

/-! ### Quarantine repair -/

theorem deriveQuarantinePlan_eq (hasher : Hasher) {runId tenantId : String}
    (target : QuarantineResolutionTarget) (resolution : QuarantineResolutionKind)
    (hclean : Clean [runId, tenantId]) :
    deriveQuarantinePlan hasher db runId tenantId target resolution =
      lift (Store.deriveQuarantinePlan hasher db runId tenantId target resolution) := by
  unfold deriveQuarantinePlan
  by_cases htarget : target.identifier ≠ runId
  · rw [if_pos htarget, Store.deriveQuarantinePlan, if_pos htarget]
    rfl
  · rw [if_neg htarget, bindTexts_of_clean hclean]
    rfl

theorem agree_applyQuarantineResolution (hasher : Hasher) {runId tenantId : String}
    (target : QuarantineResolutionTarget) (resolution : QuarantineResolutionKind)
    (expectedPlanId operatorSubjectId operatorCredentialId : String)
    (hclean : Clean [runId, tenantId]) (hreading : Clean (readingTexts reading))
    (hroom : EventRoom 2 runId db.runEvents) :
    Agree
      (Store.applyQuarantineResolution hasher db reading runId tenantId target resolution
        expectedPlanId operatorSubjectId operatorCredentialId)
      (applyQuarantineResolution hasher db reading runId tenantId target resolution expectedPlanId
        operatorSubjectId operatorCredentialId) := by
  have hsent : bindTexts [reading.utcNow 0] = .ok () :=
    bindTexts_of_clean (hreading.subset (by simp [readingTexts]))
  unfold Store.applyQuarantineResolution applyQuarantineResolution lockQuarantineEvidence
  simp only [bindTexts_of_clean hclean, deriveQuarantinePlan_eq hasher target resolution hclean,
    hsent]
  cases hfind : findRunForTenant db runId tenantId with
  | none =>
    -- the first store finds no Run either, once it has looked for a committed resolution
    have hplan : ∃ error, Store.deriveQuarantinePlan hasher db runId tenantId target resolution =
        .error error := by
      unfold Store.deriveQuarantinePlan
      rw [hfind]
      split_ifs <;> exact ⟨_, rfl⟩
    obtain ⟨error, hplan⟩ := hplan
    rw [hplan]
    cases findResolutionEvent db runId expectedPlanId <;> exact .raised _ _
  | some row =>
    have hrow := ((findRunForTenant_eq_some_iff _ _ _ _).mp hfind).1
    cases findResolutionEvent db runId expectedPlanId with
    | error error => exact .raised _ _
    | ok existing =>
      cases Store.deriveQuarantinePlan hasher db runId tenantId target resolution with
      | error error => exact .raised _ _
      | ok plan =>
        cases existing with
        | some stored =>
          change Agree (if _ then _ else _) (if _ then _ else _)
          split_ifs
          · exact .raised _ _
          · exact .returned _
        | none =>
          change Agree (if _ then _ else _) (if _ then _ else _)
          split_ifs
          · exact .raised _ _
          · cases (some row).filter RunRow.quarantined with
            | none => exact .raised _ _
            | some _ =>
              change Agree _ (appendRunEvent _ runId "quarantine.resolution_applied" _ _ >>= _)
              rw [appendRunEvent_updated _ _ hreading hroom hrow (by decide) (by decide)]
              change Agree _ (appendRunEvent _ runId "run.failed" _ _ >>= fun failed ↦
                Except.ok (_, failed))
              rw [appendRunEvent_updated_second _ _ _ hreading hroom hrow (by decide) (by decide)]
              exact .returned _

theorem verifyQuarantineResolution_eq (hasher : Hasher) {commit : QuarantineResolutionCommit}
    (hclean : Clean [commit.plan.target.identifier, commit.plan.thread.tenantId]) :
    verifyQuarantineResolution hasher db commit =
      lift (Store.verifyQuarantineResolution hasher db commit) := by
  unfold verifyQuarantineResolution
  simp only [bindTexts_of_clean hclean]
  split_ifs <;> rfl

/-! ### Reads -/

theorem agree_reads {α : Type} {value : Except StoreError α} {other : Except PostgresError α}
    (hlift : other = lift value) :
    Agree (Store.reads db value) (other >>= fun reply ↦ Except.ok (reply, db)) := by
  rw [hlift]
  cases value with
  | error error => exact .raised _ _
  | ok reply => exact .returned _

theorem reads_eq {α : Type} {texts : List String} (value : Except StoreError α)
    (hclean : Clean texts) : reads db texts value = lift (Store.reads db value) := by
  unfold reads
  rw [bindTexts_of_clean hclean]
  cases value <;> rfl

end Operations

/-! ### The two machines -/

/-- Every portable request gets the same answer from both stores, in every state with at most one
RUNNING Run per thread. -/
theorem agree_perform (hasher : Hasher) {db : Database} {request : RunRequest}
    (hone : OneRunningPerThread db) (hportable : Portable db request) :
    Agree (request.call.perform hasher db request.reading)
      (perform hasher db request.reading request.call) := by
  obtain ⟨reading, call⟩ := request
  obtain ⟨hclean, hreading, hseed, hroom, hattempt, hrevision⟩ := hportable
  cases call with
  | createRun run => exact agree_createRun hclean hseed
  | createRunWithEvent run eventType payload =>
    exact agree_createRunWithEvent payload hclean hreading (hroom _ rfl) hseed
  | claimNextRun ownerId duration code =>
    exact agree_claimNextRun hone hclean hreading hroom hattempt
  | renewRunLease runId token duration =>
    exact agree_of_eq_lift (renewRunLease_eq duration hclean hreading)
  | expireRunLease runId token => exact agree_of_eq_lift (expireRunLease_eq hclean hreading)
  | appendAttemptEvent runId token eventType payload =>
    exact agree_of_eq_lift (appendAttemptEvent_eq payload hclean hreading (hroom _ rfl))
  | appendControlPlaneEvent runId tenantId eventType payload =>
    exact agree_of_eq_lift (appendControlPlaneEvent_eq payload hclean hreading (hroom _ rfl))
  | finalizeNextQueuedCancellation =>
    exact agree_of_eq_lift (finalizeNextQueuedCancellation_eq hreading hroom)
  | requestCancelAtomically runId tenantId =>
    exact agree_of_eq_lift (requestCancelAtomically_eq hclean hreading (hroom _ rfl))
  | commitReconciliationPending runId tenantId token code error =>
    exact agree_of_eq_lift (commitReconciliationPending_eq hclean hreading)
  | commitCompletedRun run token =>
    exact agree_of_eq_lift (commitCompletedRun_eq hclean hreading (hroom _ rfl) hrevision)
  | commitCheckpointConflict run token phase =>
    exact agree_of_eq_lift (commitCheckpointConflict_eq phase hclean hreading (hroom _ rfl))
  | quarantineCheckpointConflict run token phase =>
    exact agree_of_eq_lift (quarantineCheckpointConflict_eq phase hclean hreading (hroom _ rfl))
  | commitCancelledRun run reason token =>
    exact agree_commitCancelledRun reason hclean hreading (hroom _ rfl) hattempt
  | commitFailedRun run token code error traceback allow =>
    exact agree_of_eq_lift (commitFailedRun_eq traceback allow hclean hreading (hroom _ rfl))
  | applyQuarantineResolution runId tenantId target resolution planId subject credential =>
    exact agree_applyQuarantineResolution hasher target resolution planId subject credential hclean
      hreading (hroom _ rfl)
  | planQuarantineResolution runId tenantId target resolution =>
    exact agree_reads (deriveQuarantinePlan_eq hasher target resolution hclean)
  | verifyQuarantineResolution commit =>
    exact agree_reads (verifyQuarantineResolution_eq hasher hclean)
  | getRunInternal runId => exact agree_of_eq_lift (reads_eq (.ok (getRunInternal db runId)) hclean)
  | getRunForTenant runId tenantId =>
    exact agree_of_eq_lift (reads_eq (.ok (getRunForTenant db runId tenantId)) hclean)
  | getRunByClientRequestId tenantId clientRequestId =>
    exact agree_of_eq_lift
      (reads_eq (.ok (getRunByClientRequestId db tenantId clientRequestId)) hclean)
  | listEvents runId afterSequence =>
    exact agree_of_eq_lift (reads_eq (.ok (listRunEvents db runId afterSequence)) hclean)
  | listEventsForTenant runId tenantId afterSequence =>
    exact agree_of_eq_lift
      (reads_eq (.ok (listEventsForTenant db runId tenantId afterSequence)) hclean)
  | loadThreadStateSnapshot threadId tenantId domainId schemaVersion expected require =>
    exact agree_of_eq_lift (reads_eq
      (loadThreadStateSnapshot db threadId tenantId domainId schemaVersion expected require) hclean)

/-- The database after a request to the second store; a call that raises is rolled back. -/
def RunRequest.applyPostgres (hasher : Hasher) (db : Database) (request : RunRequest) : Database :=
  match perform hasher db request.reading request.call with
  | .ok (_, after) => after
  | .error _ => db

/-- `SQLiteRunStore` over an initially empty file. -/
def sqliteRunStore (hasher : Hasher) : Machine Database RunRequest where
  init := Database.empty
  next db request := Request.apply hasher db ⟨request.reading, .run request.call⟩

/-- `PostgresRunStore` over an initially empty schema. -/
def postgresRunStore (hasher : Hasher) : Machine Database RunRequest where
  init := Database.empty
  next := RunRequest.applyPostgres hasher

/-- Agreeing replies leave the same tables. -/
theorem next_eq_of_agree {hasher : Hasher} {db : Database} {request : RunRequest}
    (hagree : Agree (request.call.perform hasher db request.reading)
      (perform hasher db request.reading request.call)) :
    (postgresRunStore hasher).next db request = (sqliteRunStore hasher).next db request := by
  obtain ⟨reading, call⟩ := request
  change RunRequest.applyPostgres hasher db ⟨reading, call⟩ =
    Request.apply hasher db ⟨reading, .run call⟩
  unfold RunRequest.applyPostgres
  simp only at hagree ⊢
  cases hsqlite : call.perform hasher db reading with
  | error error =>
    have hrolled : Request.apply hasher db ⟨reading, .run call⟩ = db := apply_of_error hsqlite
    rw [hsqlite] at hagree
    cases hpostgres : perform hasher db reading call with
    | error other => exact hrolled.symm
    | ok value =>
      rw [hpostgres] at hagree
      cases hagree
  | ok value =>
    obtain ⟨reply, after⟩ := value
    have happlied : Request.apply hasher db ⟨reading, .run call⟩ = after := apply_of_ok hsqlite
    rw [hsqlite] at hagree
    cases hpostgres : perform hasher db reading call with
    | error other =>
      rw [hpostgres] at hagree
      cases hagree
    | ok other =>
      rw [hpostgres] at hagree
      cases hagree
      exact happlied.symm

/-- Along portable requests the two stores pass through the same tables. -/
theorem run_eq_of_portable (hasher : Hasher) {db : Database} (hone : OneRunningPerThread db)
    {history : List RunRequest} (hportable : (sqliteRunStore hasher).Admits Portable db history) :
    (postgresRunStore hasher).run db history = (sqliteRunStore hasher).run db history := by
  induction history generalizing db with
  | nil => rfl
  | cons request rest ih =>
    obtain ⟨hfirst, hrest⟩ := hportable
    have hnext := next_eq_of_agree (agree_perform hasher hone hfirst)
    rw [Machine.run_cons, Machine.run_cons, hnext]
    exact ih (oneRunningPerThread_apply hone) hrest

/-- One machine, two stores. In every serial history of portable requests over empty stores, each
request returns the same value from both stores or raises in both, and leaves both with the same
tables. -/
theorem run_stores_agree (hasher : Hasher) (earlier : List RunRequest) (request : RunRequest)
    (later : List RunRequest)
    (hportable : (sqliteRunStore hasher).Admits Portable Database.empty
      (earlier ++ request :: later)) :
    let sqlite := (sqliteRunStore hasher).run Database.empty earlier
    let postgres := (postgresRunStore hasher).run Database.empty earlier
    Agree (request.call.perform hasher sqlite request.reading)
        (perform hasher postgres request.reading request.call) ∧
      (postgresRunStore hasher).next postgres request =
        (sqliteRunStore hasher).next sqlite request := by
  intro sqlite postgres
  obtain ⟨hearlier, hrequest, -⟩ := ((sqliteRunStore hasher).admits_append _ _ _ _).mp hportable
  have hsame : postgres = sqlite := run_eq_of_portable hasher oneRunningPerThread_empty hearlier
  have hone : OneRunningPerThread sqlite :=
    (sqliteRunStore hasher).invariant_run OneRunningPerThread
      (fun _ _ hone _ ↦ oneRunningPerThread_apply hone) oneRunningPerThread_empty hearlier
  rw [hsame]
  have hagree := agree_perform hasher hone hrequest
  exact ⟨hagree, next_eq_of_agree hagree⟩

/-- A Run of the thread `trip` is created without client state and claimed. -/
def claimedHistory : List RunRequest :=
  [⟨sampleReading 0 "t0", .createRunWithEvent (sampleRun "run_1" "t0" none) "run.queued" []⟩,
    ⟨sampleReading 1 "t1", .claimNextRun "worker" 30 none⟩]

/-- The claimed Run completes with a checkpoint. -/
def completionRequest : RunRequest :=
  ⟨sampleReading 2 "t2",
    .commitCompletedRun (sampleRun "run_1" "t0" (some sampleState)) "lease_t1"⟩

/-- Both stores commit the first checkpoint of a thread whose Run brought no client state. -/
theorem completion_agrees :
    Agree
        (completionRequest.call.perform sampleHasher
          ((sqliteRunStore sampleHasher).run Database.empty claimedHistory)
          completionRequest.reading)
        (perform sampleHasher ((postgresRunStore sampleHasher).run Database.empty claimedHistory)
          completionRequest.reading completionRequest.call) ∧
      (completionRequest.call.perform sampleHasher
        ((sqliteRunStore sampleHasher).run Database.empty claimedHistory)
        completionRequest.reading).isOk = true :=
  ⟨(run_stores_agree sampleHasher claimedHistory completionRequest [] (by decide +kernel)).1,
    by decide +kernel⟩

/-- The second store refuses every client state, on an empty thread too. -/
theorem client_state_is_refused :
    ¬ Agree
      ((RunCall.createRunWithEvent (sampleRun "run_1" "t0" (some sampleState)) "run.queued"
        []).perform sampleHasher Database.empty (sampleReading 0 "t0"))
      (perform sampleHasher Database.empty (sampleReading 0 "t0")
        (.createRunWithEvent (sampleRun "run_1" "t0" (some sampleState)) "run.queued" [])) := by
  have hsqlite : ((RunCall.createRunWithEvent (sampleRun "run_1" "t0" (some sampleState))
      "run.queued" []).perform sampleHasher Database.empty (sampleReading 0 "t0")).isOk = true := by
    decide +kernel
  have hpostgres : (perform sampleHasher Database.empty (sampleReading 0 "t0")
      (.createRunWithEvent (sampleRun "run_1" "t0" (some sampleState)) "run.queued" [])).isOk =
        false := by
    decide +kernel
  intro hagree
  generalize RunCall.perform _ _ _ _ = sqlite at hsqlite hagree
  generalize perform _ _ _ _ = postgres at hpostgres hagree
  cases hagree with
  | returned value => cases hpostgres
  | raised error other => cases hsqlite

end AgentRuntime.Postgres
