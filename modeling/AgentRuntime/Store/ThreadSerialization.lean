import AgentRuntime.Store.WorkflowTransitions

/-!
# Thread serialization

At most one Run of a tenant-qualified thread is RUNNING, in every state the stores can reach under
any interleaving of requests and any clock readings (`oneRunningPerThread_run`). The claim guards
carry the invariant on their own: a QUEUED Run is claimed only in a thread without a RUNNING Run,
whatever the lease of that Run is, and a takeover keeps the one RUNNING Run of its thread. The
unique index on `runs` is therefore never violated by a claim (`claimNextRun_ne_index_error`).
-/

set_option autoImplicit false
set_option relaxedAutoImplicit false

namespace AgentRuntime.Store

open Library

/-- Two RUNNING Runs of one thread are the same Run. -/
def OneRunningPerThread (db : Database) : Prop :=
  ∀ first firstRow second secondRow, db.runs.find first = some firstRow →
    db.runs.find second = some secondRow → firstRow.status = .running →
    secondRow.status = .running → firstRow.sameThread secondRow = true → first = second

/-- A rewrite that leaves a row RUNNING keeps its thread, and the row was RUNNING before or is
claimed in a thread without a RUNNING Run. -/
theorem RowChange.running_origin {db : Database} {reading : Reading} {call : RunCall}
    {runId : String} {row rewritten : RunRow} {notes : List Note}
    (hchange : RowChange db reading call runId row rewritten notes)
    (hrunning : rewritten.status = .running) :
    (rewritten.tenantId = row.tenantId ∧ rewritten.threadId = row.threadId) ∧
      (row.status = .running ∨ queuedCandidate db row = true) := by
  cases hchange with
  | claimQueued _ _ _ _ hcandidate => exact ⟨⟨rfl, rfl⟩, .inr hcandidate⟩
  | takeover _ _ _ _ _ hcandidate =>
    simp only [expiredCandidate, Bool.and_eq_true, beq_iff_eq] at hcandidate
    exact ⟨⟨rfl, rfl⟩, .inl hcandidate.1.1.1.1⟩
  | renew | expire | marker | attemptEvent | controlEvent | requestCancel | quarantine =>
    exact ⟨⟨rfl, rfl⟩, .inl hrunning⟩
  | cancelQueued | fail | conflict | cancel | resolve => cases hrunning

/-- One rewritten row keeps the invariant when no other Run of its thread is RUNNING. -/
theorem oneRunningPerThread_of_rewrites {db after : Database} {runId : String} {row : RunRow}
    (hone : OneRunningPerThread db) (hruns : RewritesRun db after runId row)
    (hfree : row.status = .running → ∀ other otherRow, db.runs.find other = some otherRow →
      otherRow.status = .running → otherRow.sameThread row = true → other = runId) :
    OneRunningPerThread after := by
  intro first firstRow second secondRow hfirst hsecond hfirstRunning hsecondRunning hthread
  rw [hruns] at hfirst hsecond
  by_cases hf : first = runId
  · by_cases hs : second = runId
    · rw [hf, hs]
    · simp only [hf, hs, if_true, if_false] at hfirst hsecond
      obtain rfl := Option.some.inj hfirst
      have hsame : secondRow.sameThread row = true := by
        rw [sameThread_iff] at hthread ⊢
        exact ⟨hthread.1.symm, hthread.2.symm⟩
      exact absurd (hfree hfirstRunning second secondRow hsecond hsecondRunning hsame) hs
  · by_cases hs : second = runId
    · simp only [hf, hs, if_true, if_false] at hfirst hsecond
      obtain rfl := Option.some.inj hsecond
      exact absurd (hfree hsecondRunning first firstRow hfirst hfirstRunning hthread) hf
    · simp only [hf, hs, if_false] at hfirst hsecond
      exact hone first firstRow second secondRow hfirst hsecond hfirstRunning hsecondRunning hthread

theorem oneRunningPerThread_same {db after : Database} (hone : OneRunningPerThread db)
    (hsame : SameRunTables db after) : OneRunningPerThread after := by
  unfold OneRunningPerThread
  rw [hsame.1]
  exact hone

/-- Every change of the Run tables keeps at most one RUNNING Run per thread. -/
theorem oneRunningPerThread_change {db after : Database} {reading : Reading} {call : RunCall}
    (hone : OneRunningPerThread db) (hchange : RunChange db reading call after) :
    OneRunningPerThread after := by
  cases hchange with
  | same htables => exact oneRunningPerThread_same hone htables
  | created run notes hcall hnew hfresh hseed hruns =>
    refine oneRunningPerThread_of_rewrites hone hruns fun hrunning ↦ ?_
    rw [createdRow_status hnew] at hrunning
    cases hrunning
  | rewritten runId row rewritten notes hfind hrow hruns =>
    refine oneRunningPerThread_of_rewrites hone hruns fun hrunning other otherRow hother
      hotherRunning hthread ↦ ?_
    obtain ⟨⟨htenant, hthreadId⟩, horigin⟩ := hrow.running_origin hrunning
    have hsame : otherRow.sameThread row = true := by
      rw [sameThread_iff] at hthread ⊢
      rwa [htenant, hthreadId] at hthread
    rcases horigin with hwas | hcandidate
    · exact hone other otherRow runId row hother hfind hotherRunning hwas hsame
    · exact absurd hotherRunning
        (((queuedCandidate_iff db row).mp hcandidate).2.2 other otherRow hother hsame)
  | completed run token row state hcall hcompletion =>
    refine oneRunningPerThread_of_rewrites hone hcompletion.runs fun hrunning ↦ ?_
    cases hrunning

theorem oneRunningPerThread_empty : OneRunningPerThread Database.empty := by
  intro first firstRow second secondRow hfirst
  cases hfirst

theorem oneRunningPerThread_apply {hasher : Hasher} {db : Database} {request : Request}
    (hone : OneRunningPerThread db) : OneRunningPerThread (request.apply hasher db) := by
  rcases runTables_of_apply hasher db request with hsame | ⟨call, -, hchange⟩
  · exact oneRunningPerThread_same hone hsame
  · exact oneRunningPerThread_change hone hchange

/-- In every reachable state at most one Run per thread is RUNNING. -/
theorem oneRunningPerThread_run (hasher : Hasher) (history : List Request) :
    OneRunningPerThread ((storeMachine hasher).run Database.empty history) :=
  (storeMachine hasher).invariant_run OneRunningPerThread
    (fun _ _ hone _ ↦ oneRunningPerThread_apply hone) oneRunningPerThread_empty
    ((storeMachine hasher).admits_true _ _)

/-- A claim finds no other RUNNING Run in its candidate's thread, so the unique index accepts it. -/
theorem claimNextRun_ne_index_error {db : Database} (hone : OneRunningPerThread db)
    (reading : Reading) (ownerId : String) (duration : Int) (code : Option String)
    (constraint : String) :
    claimNextRun db reading ownerId duration code ≠ .error (.integrityError constraint) := by
  intro herror
  unfold claimNextRun at herror
  split_ifs at herror
  · cases herror
  · cases herror
  · split at herror
    · cases herror
    · next runId row hcandidate =>
      obtain ⟨hfind, hclaimable, -⟩ := claimCandidate_eq_some hcandidate
      simp only at herror
      split_ifs at herror with hupdatable hoccupied
      obtain ⟨other, otherRow, hother, hne, hthread, hrunning⟩ :=
        (threadOccupied_iff db runId row).mp hoccupied
      rcases Bool.or_eq_true_iff.mp hclaimable with hqueued | hexpired
      · exact ((queuedCandidate_iff db row).mp hqueued).2.2 other otherRow hother hthread hrunning
      · simp only [expiredCandidate, Bool.and_eq_true, beq_iff_eq] at hexpired
        exact hne (hone other otherRow runId row hother hfind hrunning hexpired.1.1.1.1 hthread)

/-- The Run a claim returns, as it was before the claim. -/
theorem claimNextRun_eq_some {db after : Database} {reading : Reading} {ownerId : String}
    {duration : Int} {code : Option String} {claim : RunLeaseClaim}
    (hok : claimNextRun db reading ownerId duration code = .ok (some claim, after)) :
    ∃ row, db.runs.find claim.run.runId = some row ∧
      claimable db claim.run.runId row reading.nowMs = true ∧
      claim.leaseToken = "lease_" ++ reading.uuid 0 ∧
      claim.run = rowToRun claim.run.runId
        (claimedRow db row ownerId claim.leaseToken (reading.utcNow 0) reading.nowMs
          (reading.nowMs + duration * 1000) code) ∧
      RewritesRun db after claim.run.runId
        (claimedRow db row ownerId claim.leaseToken (reading.utcNow 0) reading.nowMs
          (reading.nowMs + duration * 1000) code) := by
  unfold claimNextRun at hok
  split_ifs at hok
  split at hok
  · cases hok
  · next runId row hcandidate =>
    obtain ⟨hfind, hclaimable, -⟩ := claimCandidate_eq_some hcandidate
    simp only at hok
    split_ifs at hok
    · obtain ⟨hclaim, rfl⟩ := Prod.mk.inj (Except.ok.inj hok)
      obtain rfl := Option.some.inj hclaim
      refine ⟨row, hfind, hclaimable, rfl, rfl, ?_⟩
      refine (rewritesRun_updateRun (fun _ ↦ claimedRow db row ownerId _ _ _ _ code)
        hfind).of_runs_eq ?_
      simp only [appendRunEvent, appendRecoveredEvent]
      split <;> rfl
    · cases hok

/-- Thread serialization. After any requests, at most one Run of each thread is RUNNING; a claim
never violates the unique index; and a claim that takes a QUEUED Run does so in a thread where no
Run at all is RUNNING, expired, unleased and quarantined ones included. -/
theorem threads_are_serialized (hasher : Hasher) (history : List Request) :
    let db := (storeMachine hasher).run Database.empty history
    OneRunningPerThread db ∧
      ∀ reading ownerId duration code,
        (∀ constraint, claimNextRun db reading ownerId duration code ≠
          .error (.integrityError constraint)) ∧
        ∀ claim after row, claimNextRun db reading ownerId duration code =
            .ok (some claim, after) →
          db.runs.find claim.run.runId = some row → row.status = .queued →
          ∀ other otherRow, db.runs.find other = some otherRow →
            otherRow.tenantId = row.tenantId → otherRow.threadId = row.threadId →
            otherRow.status ≠ .running := by
  intro db
  have hone : OneRunningPerThread db := oneRunningPerThread_run hasher history
  refine ⟨hone, fun reading ownerId duration code ↦
    ⟨claimNextRun_ne_index_error hone reading ownerId duration code, ?_⟩⟩
  intro claim after row hok hfind hqueued other otherRow hother htenant hthread
  obtain ⟨claimed, hclaimed, hclaimable, -⟩ := claimNextRun_eq_some hok
  obtain rfl : row = claimed := Option.some.inj (hfind.symm.trans hclaimed)
  rcases Bool.or_eq_true_iff.mp hclaimable with hcandidate | hexpired
  · exact ((queuedCandidate_iff db row).mp hcandidate).2.2 other otherRow hother
      ((sameThread_iff otherRow row).mpr ⟨htenant, hthread⟩)
  · simp [expiredCandidate, hqueued] at hexpired

end AgentRuntime.Store
