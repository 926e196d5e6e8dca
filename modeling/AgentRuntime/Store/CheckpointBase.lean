import AgentRuntime.Store.ThreadSerialization

/-!
# The checkpoint a RUNNING Run stands on

An ordinary Run captures the revision of its thread at its first claim; a client-seeded one stands
on revision 0 from its creation. `StandsOnCheckpoint` says that every RUNNING Run still stands on
the revision of its thread, and that a QUEUED seed comes before every other open Run of its thread.
The second part is what creation does not check: claims follow `(created_at, run_id)`, and a Run
inserted later with an earlier key is claimed first, completes, and leaves the seed on a revision
that is gone (`seeded_run_overtaken`). `running_runs_stand_on_checkpoint` is the invariant for every
history in which no Run is created before a QUEUED seed of its thread.
-/

set_option autoImplicit false
set_option relaxedAutoImplicit false

namespace AgentRuntime.Store

open Library

/-! ### The invariant -/

/-- A QUEUED Run that captured its base at creation and is not asked to cancel. -/
def PendingSeed (row : RunRow) : Prop :=
  row.status = .queued ∧ row.cancelRequested = false ∧ row.checkpointBaseRevision.isSome = true

/-- The seed comes before every other open Run of its thread, and all of them are QUEUED. -/
def FirstInThread (db : Database) (seed : String) (row : RunRow) : Prop :=
  ∀ other otherRow, db.runs.find other = some otherRow → other ≠ seed →
    otherRow.sameThread row = true → otherRow.status.isTerminal = false →
      otherRow.status = .queued ∧ creationOrder (seed, row) < creationOrder (other, otherRow)

/-- RUNNING Runs stand on the revision of their thread, and pending seeds come first in an empty
thread. -/
structure StandsOnCheckpoint (db : Database) : Prop where
  running : ∀ runId row, db.runs.find runId = some row → row.status = .running →
    row.checkpointBaseRevision = some (threadRevision db row.tenantId row.threadId)
  seeded : ∀ runId row, db.runs.find runId = some row → PendingSeed row →
    row.checkpointBaseRevision = some (threadRevision db row.tenantId row.threadId) ∧
      FirstInThread db runId row

/-- The Run a request asks to create. -/
def Request.creates (request : Request) : Option RunRecord :=
  match request.call with
  | .run (.createRun run) => some run
  | .run (.createRunWithEvent run _ _) => some run
  | _ => none

/-- No Run is created with a `(created_at, run_id)` before that of a pending seed of its thread. -/
def KeepsSeedsFirst (db : Database) (request : Request) : Prop :=
  ∀ run, request.creates = some run → ∀ seed row, db.runs.find seed = some row →
    row.tenantId = run.tenantId → row.threadId = run.threadId → PendingSeed row →
      creationOrder (seed, row) ≤ creationOrder (run.runId, runValues run)

theorem threadRevision_eq {db after : Database} (hthreads : after.threadStates = db.threadStates)
    (tenantId threadId : String) :
    threadRevision after tenantId threadId = threadRevision db tenantId threadId := by
  unfold threadRevision
  rw [hthreads]

theorem creationOrder_lt {first second : String} {firstRow secondRow : RunRow}
    (hle : creationOrder (first, firstRow) ≤ creationOrder (second, secondRow))
    (hne : first ≠ second) :
    creationOrder (first, firstRow) < creationOrder (second, secondRow) := by
  refine lt_of_le_of_ne hle fun heq ↦ hne ?_
  exact congrArg Prod.snd (toLex.injective heq)

/-! ### What a rewrite does to the open Runs -/

/-- A row that is open after a rewrite was open before, with the same thread and place in the
creation order. -/
theorem RowChange.open_origin {db : Database} {reading : Reading} {call : RunCall}
    {runId : String} {row rewritten : RunRow} {notes : List Note}
    (hchange : RowChange db reading call runId row rewritten notes)
    (hopen : rewritten.status.isTerminal = false) :
    row.status.isTerminal = false ∧ rewritten.tenantId = row.tenantId ∧
      rewritten.threadId = row.threadId ∧ rewritten.createdAt = row.createdAt := by
  have hbefore : row.status.isTerminal = false := by
    by_contra hterminal
    rw [hchange.terminal_fixed (Bool.not_eq_false _ ▸ hterminal)] at hopen
    exact hterminal hopen
  refine ⟨hbefore, ?_⟩
  cases hchange with
  | claimQueued | takeover | renew | expire | marker | attemptEvent | controlEvent | requestCancel
  | quarantine => exact ⟨rfl, rfl, rfl⟩
  | cancelQueued | fail | conflict | cancel | resolve => cases hopen

/-- A pending seed after a rewrite is the row as it was. -/
theorem RowChange.seed_origin {db : Database} {reading : Reading} {call : RunCall}
    {runId : String} {row rewritten : RunRow} {notes : List Note}
    (hchange : RowChange db reading call runId row rewritten notes)
    (hseed : PendingSeed rewritten) : rewritten = row := by
  obtain ⟨hqueued, hflag, -⟩ := hseed
  cases hchange with
  | attemptEvent | controlEvent => rfl
  | claimQueued | takeover | cancelQueued | fail | conflict | cancel | resolve => cases hqueued
  | requestCancel => cases hflag
  | renew _ _ _ hattempt | marker _ _ _ _ hattempt | quarantine _ _ _ _ _ hattempt =>
    cases hqueued.symm.trans hattempt.1
  | expire _ _ hrunning => cases hqueued.symm.trans hrunning

/-- A row that is RUNNING after a rewrite was RUNNING before and keeps its base, or is claimed as
the first candidate and takes the current revision unless it has a base. -/
theorem RowChange.base_origin {db : Database} {reading : Reading} {call : RunCall}
    {runId : String} {row rewritten : RunRow} {notes : List Note}
    (hchange : RowChange db reading call runId row rewritten notes)
    (hrunning : rewritten.status = .running) :
    (row.status = .running ∧ (row.checkpointBaseRevision.isSome = true →
      rewritten.checkpointBaseRevision = row.checkpointBaseRevision)) ∨
      queuedCandidate db row = true ∧
        rewritten.checkpointBaseRevision =
          some (row.checkpointBaseRevision.getD (threadRevision db row.tenantId row.threadId)) ∧
        ∀ other otherRow, db.runs.find other = some otherRow →
          queuedCandidate db otherRow = true →
          creationOrder (runId, row) ≤ creationOrder (other, otherRow) := by
  cases hchange with
  | claimQueued _ _ _ _ hcandidate hfirst =>
    refine .inr ⟨hcandidate, rfl, fun other otherRow hother hqueued ↦
      hfirst other otherRow hother ?_⟩
    exact Bool.or_eq_true_iff.mpr (.inl hqueued)
  | takeover _ _ _ _ _ hcandidate =>
    simp only [expiredCandidate, Bool.and_eq_true, beq_iff_eq] at hcandidate
    refine .inl ⟨hcandidate.1.1.1.1, fun hsome ↦ ?_⟩
    obtain ⟨base, hbase⟩ := Option.isSome_iff_exists.mp hsome
    simp only [claimedRow, hbase, Option.getD_some]
  | renew | expire | marker | attemptEvent | controlEvent | requestCancel | quarantine =>
    exact .inl ⟨hrunning, fun _ ↦ rfl⟩
  | cancelQueued | fail | conflict | cancel | resolve => cases hrunning

/-! ### The invariant along a history -/

theorem standsOnCheckpoint_empty : StandsOnCheckpoint Database.empty where
  running runId row hfind := by simp [Database.empty] at hfind
  seeded runId row hfind := by simp [Database.empty] at hfind

theorem standsOnCheckpoint_same {db after : Database} (hstands : StandsOnCheckpoint db)
    (hsame : SameRunTables db after) : StandsOnCheckpoint after := by
  obtain ⟨hruns, -, hthreads⟩ := hsame
  refine ⟨fun runId row hfind hrunning ↦ ?_, fun runId row hfind hseed ↦ ?_⟩
  · rw [threadRevision_eq hthreads]
    exact hstands.running runId row (hruns ▸ hfind) hrunning
  · rw [threadRevision_eq hthreads]
    unfold FirstInThread
    rw [hruns]
    exact hstands.seeded runId row (hruns ▸ hfind) hseed

/-- A new Run comes after the pending seeds of its thread; a new seed finds an empty thread. -/
theorem standsOnCheckpoint_created {db after : Database} {run : RunRecord}
    (hstands : StandsOnCheckpoint db) (hnew : isNewQueuedRun run = true)
    (hseed : run.state.isSome → db.threadStates.find (run.tenantId, run.threadId) = none ∧
      ∀ other otherRow, db.runs.find other = some otherRow →
        otherRow.tenantId = run.tenantId → otherRow.threadId = run.threadId →
        otherRow.status ≠ .queued ∧ otherRow.status ≠ .running)
    (hlast : ∀ seed row, db.runs.find seed = some row → row.tenantId = run.tenantId →
      row.threadId = run.threadId → PendingSeed row →
        creationOrder (seed, row) ≤ creationOrder (run.runId, runValues run))
    (hruns : RewritesRun db after run.runId (createdRow run))
    (hthreads : after.threadStates = db.threadStates) : StandsOnCheckpoint after := by
  have htenant : (createdRow run).tenantId = run.tenantId := by
    unfold createdRow
    split_ifs <;> rfl
  have hthread : (createdRow run).threadId = run.threadId := by
    unfold createdRow
    split_ifs <;> rfl
  have horder : creationOrder (run.runId, createdRow run) =
      creationOrder (run.runId, runValues run) := by
    unfold createdRow
    split_ifs <;> rfl
  refine ⟨fun runId row hfind hrunning ↦ ?_, fun runId row hfind hpending ↦ ?_⟩
  · rw [hruns runId] at hfind
    rw [threadRevision_eq hthreads]
    split_ifs at hfind with heq
    · obtain rfl := Option.some.inj hfind
      rw [createdRow_status hnew] at hrunning
      cases hrunning
    · exact hstands.running runId row hfind hrunning
  · rw [hruns runId] at hfind
    rw [threadRevision_eq hthreads]
    split_ifs at hfind with heq
    · obtain rfl := Option.some.inj hfind
      -- Only client state gives a new Run its base.
      have hstate : run.state.isSome = true := by
        by_contra hnone
        have hbase := hpending.2.2
        simp only [isNewQueuedRun, Bool.and_eq_true, Option.isNone_iff_eq_none] at hnew
        simp [createdRow, hnone, runValues, hnew.1.1.1.1.2] at hbase
      obtain ⟨hempty, hclosed⟩ := hseed hstate
      refine ⟨?_, fun other otherRow hother hne hsame hopen ↦ ?_⟩
      · rw [htenant, hthread]
        simp only [createdRow, hstate, if_true, threadRevision, hempty]
      · rw [hruns other, if_neg (heq ▸ hne)] at hother
        rw [sameThread_iff, htenant, hthread] at hsame
        obtain ⟨hqueued, hrunning⟩ := hclosed other otherRow hother hsame.1 hsame.2
        cases hstatus : otherRow.status with
        | queued => exact absurd hstatus hqueued
        | running => exact absurd hstatus hrunning
        | completed | failed | cancelled =>
          rw [hstatus] at hopen
          cases hopen
    · obtain ⟨hbase, hfirst⟩ := hstands.seeded runId row hfind hpending
      refine ⟨hbase, fun other otherRow hother hne hsame hopen ↦ ?_⟩
      rw [hruns other] at hother
      split_ifs at hother with hnewRun
      · obtain rfl := Option.some.inj hother
        rw [sameThread_iff, htenant, hthread] at hsame
        refine ⟨createdRow_status hnew, ?_⟩
        rw [hnewRun, horder]
        exact creationOrder_lt (hlast runId row hfind hsame.1.symm hsame.2.symm hpending) heq
      · exact hfirst other otherRow hother hne hsame hopen

/-- While a seed is pending, no other Run of its thread can be claimed before it. -/
theorem pendingSeed_candidate {db : Database} {seed : String} {row : RunRow}
    (hpending : PendingSeed row) (hfirst : FirstInThread db seed row)
    (hfind : db.runs.find seed = some row) : queuedCandidate db row = true := by
  refine (queuedCandidate_iff db row).mpr ⟨hpending.1, hpending.2.1, ?_⟩
  intro other otherRow hother hsame hrunning
  by_cases heq : other = seed
  · subst heq
    obtain rfl : otherRow = row := Option.some.inj (hother.symm.trans hfind)
    cases hpending.1.symm.trans hrunning
  · have hqueued := (hfirst other otherRow hother heq hsame (by rw [hrunning]; rfl)).1
    cases hqueued.symm.trans hrunning

theorem standsOnCheckpoint_rewritten {db after : Database} {reading : Reading} {call : RunCall}
    {runId : String} {row rewritten : RunRow} {notes : List Note} (hstands : StandsOnCheckpoint db)
    (hfind : db.runs.find runId = some row)
    (hchange : RowChange db reading call runId row rewritten notes)
    (hruns : RewritesRun db after runId rewritten)
    (hthreads : after.threadStates = db.threadStates) : StandsOnCheckpoint after := by
  refine ⟨fun other otherRow hother hrunning ↦ ?_, fun seed seedRow hseed hpending ↦ ?_⟩
  · rw [hruns other] at hother
    rw [threadRevision_eq hthreads]
    split_ifs at hother with heq
    · obtain rfl := Option.some.inj hother
      obtain ⟨-, htenant, hthread, -⟩ := hchange.open_origin (by rw [hrunning]; rfl)
      rw [htenant, hthread]
      rcases hchange.base_origin hrunning with ⟨hwas, hkept⟩ | ⟨hcandidate, hbase, -⟩
      · have hstood := hstands.running runId row hfind hwas
        rw [hkept (by rw [hstood]; rfl), hstood]
      · obtain ⟨hqueued, hflag, -⟩ := (queuedCandidate_iff db row).mp hcandidate
        rw [hbase]
        cases hcaptured : row.checkpointBaseRevision with
        | none => rfl
        | some base =>
          have hpending : PendingSeed row := ⟨hqueued, hflag, by rw [hcaptured]; rfl⟩
          rw [Option.getD_some, ← hcaptured]
          exact (hstands.seeded runId row hfind hpending).1
    · exact hstands.running other otherRow hother hrunning
  · rw [hruns seed] at hseed
    rw [threadRevision_eq hthreads]
    -- A pending seed is as it was, whether or not it is the rewritten row.
    have hbefore : db.runs.find seed = some seedRow := by
      split_ifs at hseed with heq
      · obtain rfl := Option.some.inj hseed
        rw [heq, hfind, hchange.seed_origin hpending]
      · exact hseed
    obtain ⟨hbase, hfirst⟩ := hstands.seeded seed seedRow hbefore hpending
    refine ⟨hbase, fun other otherRow hother hne hsame hopen ↦ ?_⟩
    rw [hruns other] at hother
    split_ifs at hother with heq
    · subst heq
      obtain rfl := Option.some.inj hother
      obtain ⟨hwas, htenant, hthread, hcreated⟩ := hchange.open_origin hopen
      have hsameRow : row.sameThread seedRow = true := by
        rw [sameThread_iff] at hsame ⊢
        rwa [htenant, hthread] at hsame
      obtain ⟨hqueued, hlt⟩ := hfirst other row hfind hne hsameRow hwas
      have horder : creationOrder (other, rewritten) = creationOrder (other, row) := by
        simp only [creationOrder, hcreated]
      refine ⟨?_, horder ▸ hlt⟩
      cases hstatus : rewritten.status with
      | queued => rfl
      | running =>
        rcases hchange.base_origin hstatus with ⟨hrunning, -⟩ | ⟨-, -, hleast⟩
        · cases hqueued.symm.trans hrunning
        · have hcandidate := pendingSeed_candidate hpending hfirst hbefore
          exact absurd hlt (not_lt_of_ge (hleast seed seedRow hbefore hcandidate))
      | completed | failed | cancelled =>
        rw [hstatus] at hopen
        cases hopen
    · exact hfirst other otherRow hother hne hsame hopen

/-- A completion moves the revision of a thread whose one RUNNING Run is the completed one and
which has no pending seed. -/
theorem standsOnCheckpoint_completion {db after : Database} {reading : Reading} {run : RunRecord}
    {token : String} {row : RunRow} {state : RuntimeState} (hstands : StandsOnCheckpoint db)
    (hone : OneRunningPerThread db)
    (hcompletion : Completion db reading run token row state after) :
    StandsOnCheckpoint after := by
  have hrevision : ∀ tenantId threadId, (tenantId, threadId) ≠ (row.tenantId, row.threadId) →
      threadRevision after tenantId threadId = threadRevision db tenantId threadId := by
    intro tenantId threadId hne
    unfold threadRevision
    rw [hcompletion.threads, if_neg hne]
  have hsameThread : ∀ otherRow : RunRow,
      (otherRow.tenantId, otherRow.threadId) = (row.tenantId, row.threadId) →
        row.sameThread otherRow = true := fun otherRow heq ↦
    (sameThread_iff _ _).mpr ⟨(congrArg Prod.fst heq).symm, (congrArg Prod.snd heq).symm⟩
  refine ⟨fun other otherRow hother hrunning ↦ ?_, fun seed seedRow hseed hpending ↦ ?_⟩
  · rw [hcompletion.runs other] at hother
    split_ifs at hother with heq
    · obtain rfl := Option.some.inj hother
      cases hrunning
    · by_cases hthread : (otherRow.tenantId, otherRow.threadId) = (row.tenantId, row.threadId)
      · exact absurd (hone run.runId row other otherRow hcompletion.find hother
          hcompletion.attempt.1 hrunning (hsameThread otherRow hthread)).symm heq
      · rw [hrevision _ _ hthread]
        exact hstands.running other otherRow hother hrunning
  · rw [hcompletion.runs seed] at hseed
    split_ifs at hseed with heq
    · obtain rfl := Option.some.inj hseed
      cases hpending.1
    · obtain ⟨hbase, hfirst⟩ := hstands.seeded seed seedRow hseed hpending
      by_cases hthread : (seedRow.tenantId, seedRow.threadId) = (row.tenantId, row.threadId)
      · have hqueued := (hfirst run.runId row hcompletion.find (Ne.symm heq)
          (hsameThread seedRow hthread) (by rw [hcompletion.attempt.1]; rfl)).1
        cases hqueued.symm.trans hcompletion.attempt.1
      · rw [hrevision _ _ hthread]
        refine ⟨hbase, fun other otherRow hother hne hsame hopen ↦ ?_⟩
        rw [hcompletion.runs other] at hother
        split_ifs at hother with hrun
        · obtain rfl := Option.some.inj hother
          cases hopen
        · exact hfirst other otherRow hother hne hsame hopen

theorem standsOnCheckpoint_apply {hasher : Hasher} {db : Database} {request : Request}
    (hstands : StandsOnCheckpoint db) (hone : OneRunningPerThread db)
    (hfirst : KeepsSeedsFirst db request) : StandsOnCheckpoint (request.apply hasher db) := by
  rcases runTables_of_apply hasher db request with hsame | ⟨call, hcall, hchange⟩
  · exact standsOnCheckpoint_same hstands hsame
  · cases hchange with
    | same htables => exact standsOnCheckpoint_same hstands htables
    | created run notes hcreate hnew hfresh hseed hruns hevents hthreads =>
      refine standsOnCheckpoint_created hstands hnew hseed (hfirst run ?_) hruns hthreads
      unfold Request.creates
      rw [hcall]
      rcases hcreate with ⟨rfl, -⟩ | ⟨payload, rfl, -⟩ <;> rfl
    | rewritten runId row rewritten notes hfind hrow hruns hevents hthreads =>
      exact standsOnCheckpoint_rewritten hstands hfind hrow hruns hthreads
    | completed run token row state _ hcompletion =>
      exact standsOnCheckpoint_completion hstands hone hcompletion

theorem standsOnCheckpoint_run {hasher : Hasher} {history : List Request}
    (hfirst : (storeMachine hasher).Admits KeepsSeedsFirst Database.empty history) :
    StandsOnCheckpoint ((storeMachine hasher).run Database.empty history) :=
  ((storeMachine hasher).invariant_run
    (fun db ↦ OneRunningPerThread db ∧ StandsOnCheckpoint db)
    (fun _ _ hholds hnext ↦ ⟨oneRunningPerThread_apply hholds.1,
      standsOnCheckpoint_apply hholds.2 hholds.1 hnext⟩)
    ⟨oneRunningPerThread_empty, standsOnCheckpoint_empty⟩ hfirst).2

/-! ### What follows for loads and completions -/

/-- A load on the current revision does not raise a revision conflict. -/
theorem loadThreadStateSnapshot_ne_conflict {db : Database} {threadId tenantId : String}
    {expected : Option Nat} (hbase : expected = some (threadRevision db tenantId threadId))
    (domainId schemaVersion : Option String) (base : Option Nat) (observed : Nat) :
    loadThreadStateSnapshot db threadId tenantId domainId schemaVersion expected true ≠
      .error (.checkpointRevisionConflict base observed) := by
  unfold loadThreadStateSnapshot
  simp only [hbase, bne_self_eq_false, Bool.and_false, Bool.false_eq_true, if_false]
  split
  · intro hconflict
    cases hconflict
  · split_ifs
    · intro hconflict
      cases hconflict
    · intro hconflict
      cases hconflict
    · intro hconflict
      cases hconflict

theorem refuseCommit_ne_conflict {db after : Database} {run record : RunRecord} {token : String}
    {nowMs : Int} :
    refuseCommit db run token nowMs ≠ .ok ((.checkpointConflict, record), after) := by
  intro hok
  unfold refuseCommit classifyCommitOutcome at hok
  split at hok
  · cases hok
  · next outcome houtcome =>
    obtain ⟨heq, -⟩ := Prod.mk.inj (Except.ok.inj hok)
    obtain ⟨rfl, -⟩ := Prod.mk.inj heq
    split at houtcome
    · cases houtcome
    · split_ifs at houtcome <;> cases houtcome

/-- A completion of a Run that stands on its checkpoint does not report a conflict. -/
theorem commitCompletedRun_ne_conflict {db : Database} (hstands : StandsOnCheckpoint db)
    (reading : Reading) (run : RunRecord) (token : String) (record : RunRecord) (after : Database) :
    commitCompletedRun db reading run token ≠ .ok ((.checkpointConflict, record), after) := by
  intro hok
  unfold commitCompletedRun at hok
  split at hok
  · cases hok
  · next row hrow =>
    obtain ⟨hfind, htenant⟩ := (findRunForTenant_eq_some_iff _ _ _ _).mp hrow
    split_ifs at hok with hstale
    · exact refuseCommit_ne_conflict hok
    · simp only [not_or, not_not] at hstale
      have hbase := hstands.running run.runId row hfind hstale.1
      split at hok
      · cases hok
      · simp only [← htenant, hbase, ne_eq, not_true_eq_false, if_false] at hok
        split_ifs at hok
        split at hok
        · cases hok
        · split at hok
          · cases hok
          · cases hok

/-- Every RUNNING Run stands on the current checkpoint of its thread: its base is the thread's
revision, so its revision-matched load does not raise and no completion reports a conflict; and no
other Run of its thread committed before a seed that is still to run. -/
structure RunsOnCheckpoint (db : Database) : Prop where
  base : ∀ runId row, db.runs.find runId = some row → row.status = .running →
    row.checkpointBaseRevision = some (threadRevision db row.tenantId row.threadId)
  load : ∀ runId row, db.runs.find runId = some row → row.status = .running →
    ∀ domainId schemaVersion expected observed,
      loadThreadStateSnapshot db row.threadId row.tenantId domainId schemaVersion
        row.checkpointBaseRevision true ≠ .error (.checkpointRevisionConflict expected observed)
  complete : ∀ reading run token record after,
    commitCompletedRun db reading run token ≠ .ok ((.checkpointConflict, record), after)
  seed : ∀ runId row, db.runs.find runId = some row → PendingSeed row →
    row.checkpointBaseRevision = some (threadRevision db row.tenantId row.threadId)

/-- In every history whose creations keep the pending seeds first, every RUNNING Run stands on the
current checkpoint. -/
theorem running_runs_stand_on_checkpoint (hasher : Hasher) (history : List Request)
    (hfirst : (storeMachine hasher).Admits KeepsSeedsFirst Database.empty history) :
    RunsOnCheckpoint ((storeMachine hasher).run Database.empty history) := by
  have hstands := standsOnCheckpoint_run hfirst
  refine ⟨hstands.running, ?_, commitCompletedRun_ne_conflict hstands, ?_⟩
  · intro runId row hfind hrunning
    exact loadThreadStateSnapshot_ne_conflict (hstands.running runId row hfind hrunning)
  · intro runId row hfind hpending
    exact (hstands.seeded runId row hfind hpending).1

/-- A seed followed by an ordinary Run of its thread, and the claim of the seed. -/
def seedFirstHistory : List Request :=
  [submitRequest (sampleRun "run_a" "09:00" (some sampleState)),
    submitRequest (sampleRun "run_b" "10:00" none),
    ⟨sampleReading 0 "1", .run (.claimNextRun "worker" 30 none)⟩]

theorem claimed_seed_stands_on_checkpoint :
    (storeMachine sampleHasher).Admits KeepsSeedsFirst Database.empty seedFirstHistory ∧
      let db := (storeMachine sampleHasher).run Database.empty seedFirstHistory
      (db.runs.find "run_a").map (·.status) = some .running ∧ RunsOnCheckpoint db := by
  have hfirst : (storeMachine sampleHasher).Admits KeepsSeedsFirst Database.empty
      seedFirstHistory := by
    refine ⟨?_, ?_, fun run hrun ↦ ?_, trivial⟩
    · intro run hrun seed row hfind
      simp [Database.empty] at hfind
    · intro run hrun seed row hfind
      obtain rfl := Option.some.inj hrun
      rw [← Table.mem_rows_iff] at hfind
      obtain ⟨rfl, rfl⟩ := Prod.mk.inj (List.mem_singleton.mp hfind)
      intro _ _ _
      decide +kernel
    · simp [Request.creates] at hrun
  exact ⟨hfirst, by decide +kernel,
    running_runs_stand_on_checkpoint sampleHasher seedFirstHistory hfirst⟩

/-- The seed of `run_b` is accepted, then `run_a` is inserted with an earlier creation time, claimed
first and completed; the claim of `run_b` follows. -/
def overtakenHistory : List Request :=
  [submitRequest (sampleRun "run_b" "10:00" (some sampleState)),
    submitRequest (sampleRun "run_a" "09:00" none),
    ⟨sampleReading 0 "1", .run (.claimNextRun "worker" 30 none)⟩,
    ⟨sampleReading 1 "2", .run (.commitCompletedRun
      { sampleRun "run_a" "09:00" (some sampleState) with status := .running } "lease_1")⟩,
    ⟨sampleReading 2 "3", .run (.claimNextRun "worker" 30 none)⟩]

/-- The columns that place a Run on its thread. -/
def RunRow.standing (row : RunRow) : RunStatus × Option Nat × String × String :=
  (row.status, row.checkpointBaseRevision, row.tenantId, row.threadId)

theorem not_runsOnCheckpoint {db : Database} (runId tenantId threadId : String) (base : Nat)
    (hrow : (db.runs.find runId).map RunRow.standing =
      some (.running, some base, tenantId, threadId))
    (hmoved : base ≠ threadRevision db tenantId threadId) : ¬ RunsOnCheckpoint db := by
  intro hholds
  obtain ⟨row, hfind, hvalues⟩ := Option.map_eq_some_iff.mp hrow
  simp only [RunRow.standing, Prod.mk.injEq] at hvalues
  obtain ⟨hrunning, hbase, rfl, rfl⟩ := hvalues
  have hstood := hholds.base runId row hfind hrunning
  rw [hbase] at hstood
  exact hmoved (Option.some.inj hstood)

/-- The overtaken seed is RUNNING on revision 0 of a thread at revision 1. -/
theorem seeded_run_overtaken :
    let db := (storeMachine sampleHasher).run Database.empty overtakenHistory
    (db.runs.find "run_b").map RunRow.standing = some (.running, some 0, "acme", "trip") ∧
      threadRevision db "acme" "trip" = 1 ∧ ¬ RunsOnCheckpoint db := by
  refine ⟨by decide +kernel, by decide +kernel, ?_⟩
  exact not_runsOnCheckpoint "run_b" "acme" "trip" 0 (by decide +kernel) (by decide +kernel)

end AgentRuntime.Store
