import AgentRuntime.Store.WorkflowTransitions

/-!
# No lost checkpoint update

The completions of a history are the `commit_completed_run` calls that reported COMMITTED, in
commit order (`completionNote`). `CheckpointHistory` relates them to the tables: they are exactly
the COMPLETED Runs, the revision of a thread is the number of its completions, the `k`-th of them
stands on base `k`, and the stored checkpoint is the projection of the last one. Each change of the
Run tables keeps the relation (`checkpointHistory_change`, `checkpointHistory_completion`), so
`checkpoint_history_of_run` holds after every history.
-/

set_option autoImplicit false
set_option relaxedAutoImplicit false

namespace AgentRuntime.Store

open Library

/-! ### The completions of a history -/

/-- The Run and the state of a completing commit that reports COMMITTED. -/
def completionNote (hasher : Hasher) (db : Database) (request : Request) :
    List (String × StateJson) :=
  match request.call with
  | .run (.commitCompletedRun run token) =>
    match (RunCall.commitCompletedRun run token).perform hasher db request.reading, run.state with
    | .ok ((.committed, _), _), some state => [(run.runId, state.toStateJson)]
    | _, _ => []
  | _ => []

/-- The entry belongs to a Run of the thread. -/
def belongs (db : Database) (tenantId threadId : String) (entry : String × StateJson) : Bool :=
  match db.runs.find entry.1 with
  | some row => row.tenantId == tenantId && row.threadId == threadId
  | none => false

/-- The completions of one thread, in commit order. -/
def inThread (db : Database) (tenantId threadId : String)
    (completions : List (String × StateJson)) : List (String × StateJson) :=
  completions.filter (belongs db tenantId threadId)

/-- The COMPLETED Runs of a thread. -/
def completedRuns (db : Database) (tenantId threadId : String) : List (String × RunRow) :=
  db.runs.rows.filter fun entry ↦
    entry.2.tenantId == tenantId && entry.2.threadId == threadId && entry.2.status == .completed

/-- The Run's `checkpoint.saved` event moves its thread from revision `base` to the next. -/
def SavedOn (db : Database) (runId : String) (base : Nat) : Prop :=
  ∃ event ∈ db.runEvents, event.runId = runId ∧ event.eventType = "checkpoint.saved" ∧
    event.payload.get? "base_revision" = some (Json.nat base) ∧
    event.payload.get? "revision" = some (Json.nat (base + 1))

/-- The tables record exactly these completions, in this order. -/
structure CheckpointHistory (db : Database) (completions : List (String × StateJson)) : Prop where
  nodup : (completions.map Prod.fst).Nodup
  complete : ∀ runId row, db.runs.find runId = some row → row.status = .completed →
    runId ∈ completions.map Prod.fst
  recorded : ∀ runId body, (runId, body) ∈ completions → ∃ row,
    db.runs.find runId = some row ∧ row.status = .completed ∧ row.stateJson = some body
  position : ∀ tenantId threadId k runId body,
    (inThread db tenantId threadId completions)[k]? = some (runId, body) →
    (∃ row, db.runs.find runId = some row ∧ row.checkpointBaseRevision = some k) ∧
      SavedOn db runId k
  revision : ∀ tenantId threadId, threadRevision db tenantId threadId =
    (inThread db tenantId threadId completions).length
  empty : ∀ tenantId threadId, inThread db tenantId threadId completions = [] →
    db.threadStates.find (tenantId, threadId) = none
  last : ∀ tenantId threadId runId body,
    (inThread db tenantId threadId completions).getLast? = some (runId, body) →
    ∃ row checkpoint, db.runs.find runId = some row ∧
      db.threadStates.find (tenantId, threadId) = some checkpoint ∧
      checkpoint.domainId = row.domainId ∧ checkpoint.schemaVersion = row.schemaVersion ∧
      checkpoint.stateJson = (projectThreadCheckpointState
        { toStateJson := body, domainId := row.domainId
          schemaVersion := row.schemaVersion }).toStateJson

theorem checkpointHistory_empty : CheckpointHistory Database.empty [] where
  nodup := List.nodup_nil
  complete runId row hfind := by simp [Database.empty] at hfind
  recorded := by simp
  position := by simp [inThread]
  revision _ _ := rfl
  empty _ _ _ := rfl
  last := by simp [inThread]

/-- Completed Runs keep their thread, so the completions of a thread stay the same. -/
theorem inThread_kept {db after : Database} {completions : List (String × StateJson)}
    (hhistory : CheckpointHistory db completions)
    (hfixed : ∀ runId row, db.runs.find runId = some row → row.status.isTerminal = true →
      after.runs.find runId = some row) (tenantId threadId : String) :
    inThread after tenantId threadId completions = inThread db tenantId threadId completions := by
  refine List.filter_congr fun entry hmem ↦ ?_
  obtain ⟨row, hfind, hcompleted, -⟩ := hhistory.recorded entry.1 entry.2 hmem
  unfold belongs
  rw [hfind, hfixed entry.1 row hfind (by rw [hcompleted]; rfl)]

/-- A change that completes no Run and leaves the checkpoints alone keeps the history. -/
theorem checkpointHistory_change {db after : Database}
    {completions : List (String × StateJson)} (hhistory : CheckpointHistory db completions)
    (hfixed : ∀ runId row, db.runs.find runId = some row → row.status.isTerminal = true →
      after.runs.find runId = some row)
    (hbefore : ∀ runId row, after.runs.find runId = some row → row.status = .completed →
      ∃ before, db.runs.find runId = some before ∧ before.status = .completed)
    (hevents : ∀ event ∈ db.runEvents, event ∈ after.runEvents)
    (hthreads : after.threadStates = db.threadStates) : CheckpointHistory after completions := by
  have hkept := inThread_kept hhistory hfixed
  have hrow : ∀ runId body, (runId, body) ∈ completions → ∀ row,
      db.runs.find runId = some row → after.runs.find runId = some row := by
    intro runId body hmem row hfind
    obtain ⟨found, hfound, hcompleted, -⟩ := hhistory.recorded runId body hmem
    obtain rfl : row = found := Option.some.inj (hfind.symm.trans hfound)
    exact hfixed runId row hfind (by rw [hcompleted]; rfl)
  refine ⟨hhistory.nodup, ?_, ?_, ?_, ?_, ?_, ?_⟩
  · intro runId row hfind hcompleted
    obtain ⟨before, hbefore, hwas⟩ := hbefore runId row hfind hcompleted
    exact hhistory.complete runId before hbefore hwas
  · intro runId body hmem
    obtain ⟨row, hfind, hcompleted, hstate⟩ := hhistory.recorded runId body hmem
    exact ⟨row, hrow runId body hmem row hfind, hcompleted, hstate⟩
  · intro tenantId threadId k runId body hget
    rw [hkept] at hget
    have hmem : (runId, body) ∈ completions :=
      (List.mem_filter.mp (List.mem_of_getElem? hget)).1
    obtain ⟨⟨row, hfind, hbase⟩, event, hevent, hsaved⟩ :=
      hhistory.position tenantId threadId k runId body hget
    exact ⟨⟨row, hrow runId body hmem row hfind, hbase⟩, event, hevents event hevent, hsaved⟩
  · intro tenantId threadId
    rw [hkept, ← hhistory.revision tenantId threadId]
    simp only [threadRevision, hthreads]
  · intro tenantId threadId hempty
    rw [hkept] at hempty
    rw [hthreads]
    exact hhistory.empty tenantId threadId hempty
  · intro tenantId threadId runId body hlast
    rw [hkept] at hlast
    have hmem : (runId, body) ∈ completions :=
      (List.mem_filter.mp (List.mem_of_getLast? hlast)).1
    obtain ⟨row, checkpoint, hfind, hcheckpoint, hrest⟩ :=
      hhistory.last tenantId threadId runId body hlast
    exact ⟨row, checkpoint, hrow runId body hmem row hfind, by rw [hthreads, hcheckpoint], hrest⟩

/-- The history after a completing commit: the Run is the last completion of its thread. -/
theorem inThread_completed {db after : Database} {completions : List (String × StateJson)}
    {reading : Reading} {run : RunRecord} {token : String} {row : RunRow} {state : RuntimeState}
    (hhistory : CheckpointHistory db completions)
    (hcompletion : Completion db reading run token row state after)
    (hfixed : ∀ runId row, db.runs.find runId = some row → row.status.isTerminal = true →
      after.runs.find runId = some row) (tenantId threadId : String) :
    inThread after tenantId threadId (completions ++ [(run.runId, state.toStateJson)]) =
      inThread db tenantId threadId completions ++
        if (tenantId, threadId) = (row.tenantId, row.threadId) then
          [(run.runId, state.toStateJson)]
        else [] := by
  have hafter : after.runs.find run.runId =
      some (completedRow row run state (reading.utcNow 0)) := by
    rw [hcompletion.runs, if_pos rfl]
  unfold inThread
  rw [List.filter_append]
  congr 1
  · exact inThread_kept hhistory hfixed tenantId threadId
  · simp only [List.filter_cons, List.filter_nil, belongs, hafter, completedRow,
      RunRow.clearLease, Bool.and_eq_true, beq_iff_eq, Prod.mk.injEq]
    by_cases hthread : row.tenantId = tenantId ∧ row.threadId = threadId
    · rw [if_pos hthread, if_pos ⟨hthread.1.symm, hthread.2.symm⟩]
    · rw [if_neg hthread, if_neg fun heq ↦ hthread ⟨heq.1.symm, heq.2.symm⟩]

theorem savedOn_of_completion {db after : Database} {reading : Reading} {run : RunRecord}
    {token : String} {row : RunRow} {state : RuntimeState}
    (hcompletion : Completion db reading run token row state after) :
    SavedOn after run.runId (threadRevision db row.tenantId row.threadId) := by
  refine ⟨newEvent db.runEvents run.runId "checkpoint.saved" (checkpointSavedPayload row.threadId
    state (threadRevision db row.tenantId row.threadId)) (reading.utcNow 1), ?_, rfl, rfl, rfl, rfl⟩
  rw [hcompletion.events]
  simp [appendNotes]

theorem threadRevision_of_completion {db after : Database} {reading : Reading} {run : RunRecord}
    {token : String} {row : RunRow} {state : RuntimeState}
    (hcompletion : Completion db reading run token row state after)
    (tenantId threadId : String) :
    threadRevision after tenantId threadId =
      threadRevision db tenantId threadId +
        if (tenantId, threadId) = (row.tenantId, row.threadId) then 1 else 0 := by
  unfold threadRevision
  rw [hcompletion.threads]
  by_cases hthread : (tenantId, threadId) = (row.tenantId, row.threadId)
  · obtain ⟨rfl, rfl⟩ := Prod.mk.inj hthread
    rw [if_pos rfl, if_pos rfl]
    rfl
  · rw [if_neg hthread, if_neg hthread, Nat.add_zero]

theorem checkpointHistory_completion {db after : Database}
    {completions : List (String × StateJson)} {reading : Reading} {run : RunRecord}
    {token : String} {row : RunRow} {state : RuntimeState}
    (hhistory : CheckpointHistory db completions)
    (hcompletion : Completion db reading run token row state after) :
    CheckpointHistory after (completions ++ [(run.runId, state.toStateJson)]) := by
  have hchange : RunChange db reading (.commitCompletedRun run token) after :=
    .completed run token row state rfl hcompletion
  have hfixed : ∀ runId row, db.runs.find runId = some row → row.status.isTerminal = true →
      after.runs.find runId = some row := fun runId row ↦ terminal_row_fixed hchange
  have hthread := inThread_completed hhistory hcompletion hfixed
  have hafter : after.runs.find run.runId =
      some (completedRow row run state (reading.utcNow 0)) := by
    rw [hcompletion.runs, if_pos rfl]
  have hkeep : ∀ runId body, (runId, body) ∈ completions → ∀ row,
      db.runs.find runId = some row → after.runs.find runId = some row := by
    intro runId body hmem row hfind
    obtain ⟨found, hfound, hcompleted, -⟩ := hhistory.recorded runId body hmem
    obtain rfl : row = found := Option.some.inj (hfind.symm.trans hfound)
    exact hfixed runId row hfind (by rw [hcompleted]; rfl)
  have hnew : run.runId ∉ completions.map Prod.fst := by
    intro hmem
    obtain ⟨⟨runId, body⟩, hentry, rfl⟩ := List.mem_map.mp hmem
    obtain ⟨found, hfound, hcompleted, -⟩ := hhistory.recorded _ _ hentry
    obtain rfl : row = found := Option.some.inj (hcompletion.find.symm.trans hfound)
    rw [hcompletion.attempt.1] at hcompleted
    cases hcompleted
  refine ⟨?_, ?_, ?_, ?_, ?_, ?_, ?_⟩
  · rw [List.map_append, List.map_singleton, ← List.concat_eq_append]
    exact (List.nodup_concat _ _).mpr ⟨hnew, hhistory.nodup⟩
  · intro runId found hfind hcompleted
    rw [hcompletion.runs] at hfind
    by_cases heq : runId = run.runId
    · simp [heq]
    · rw [if_neg heq] at hfind
      rw [List.map_append]
      exact List.mem_append_left _ (hhistory.complete runId found hfind hcompleted)
  · intro runId body hmem
    rcases List.mem_append.mp hmem with hold | hlast
    · obtain ⟨found, hfind, hcompleted, hstate⟩ := hhistory.recorded runId body hold
      exact ⟨found, hkeep runId body hold found hfind, hcompleted, hstate⟩
    · obtain ⟨rfl, rfl⟩ := Prod.mk.inj (List.mem_singleton.mp hlast)
      exact ⟨_, hafter, rfl, rfl⟩
  · intro tenantId threadId k runId body hget
    rw [hthread] at hget
    rcases List.mem_append.mp (List.mem_of_getElem? hget) with hold | hlast
    · have hget' : (inThread db tenantId threadId completions)[k]? = some (runId, body) := by
        rcases Nat.lt_or_ge k (inThread db tenantId threadId completions).length with hk | hk
        · rwa [List.getElem?_append_left hk] at hget
        · -- An entry at a later position is the new Run, which was not COMPLETED before.
          rw [List.getElem?_append_right hk] at hget
          have hmem := List.mem_of_getElem? hget
          split_ifs at hmem
          · obtain ⟨rfl, -⟩ := Prod.mk.inj (List.mem_singleton.mp hmem)
            exact absurd (List.mem_map.mpr ⟨_, (List.mem_filter.mp hold).1, rfl⟩) hnew
          · cases hmem
      obtain ⟨⟨found, hfind, hbase⟩, event, hevent, hsaved⟩ :=
        hhistory.position tenantId threadId k runId body hget'
      exact ⟨⟨found, hkeep runId body (List.mem_filter.mp hold).1 found hfind, hbase⟩, event,
        events_kept hchange hevent, hsaved⟩
    · split_ifs at hlast hget with hsame
      · obtain ⟨rfl, rfl⟩ := Prod.mk.inj (List.mem_singleton.mp hlast)
        obtain ⟨rfl, rfl⟩ := Prod.mk.inj hsame
        have hk : k = threadRevision db row.tenantId row.threadId := by
          rw [hhistory.revision]
          rcases Nat.lt_or_ge k
            (inThread db row.tenantId row.threadId completions).length with hk | hk
          · rw [List.getElem?_append_left hk] at hget
            exact absurd (List.mem_map.mpr
              ⟨_, (List.mem_filter.mp (List.mem_of_getElem? hget)).1, rfl⟩) hnew
          · have hbound := (List.getElem?_eq_some_iff.mp hget).1
            rw [List.length_append, List.length_singleton] at hbound
            omega
        rw [hk]
        exact ⟨⟨_, hafter, hcompletion.base⟩, savedOn_of_completion hcompletion⟩
      · cases hlast
  · intro tenantId threadId
    rw [threadRevision_of_completion hcompletion, hthread, hhistory.revision, List.length_append]
    split_ifs <;> rfl
  · intro tenantId threadId hempty
    rw [hthread, List.append_eq_nil_iff] at hempty
    rw [hcompletion.threads]
    split_ifs at hempty ⊢ with hsame
    · simp at hempty
    · exact hhistory.empty tenantId threadId hempty.1
  · intro tenantId threadId runId body hlast
    rw [hthread] at hlast
    rw [hcompletion.threads]
    split_ifs at hlast ⊢ with hsame
    · rw [List.getLast?_append_of_ne_nil _ (by simp), List.getLast?_singleton] at hlast
      obtain ⟨rfl, rfl⟩ := Prod.mk.inj (Option.some.inj hlast)
      exact ⟨_, _, hafter, rfl, rfl, rfl, rfl⟩
    · rw [List.append_nil] at hlast
      have hmem : (runId, body) ∈ completions :=
        (List.mem_filter.mp (List.mem_of_getLast? hlast)).1
      obtain ⟨found, checkpoint, hfind, hrest⟩ :=
        hhistory.last tenantId threadId runId body hlast
      exact ⟨found, checkpoint, hkeep runId body hmem found hfind, hrest⟩

theorem checkpointHistory_same {db after : Database} {completions : List (String × StateJson)}
    (hhistory : CheckpointHistory db completions) (hsame : SameRunTables db after) :
    CheckpointHistory after completions := by
  refine checkpointHistory_change hhistory ?_ ?_ ?_ hsame.2.2
  · intro runId row hfind _
    rw [hsame.1, hfind]
  · intro runId row hfind hcompleted
    exact ⟨row, by rw [← hsame.1, hfind], hcompleted⟩
  · intro event hmem
    rwa [hsame.2.1]

/-- Every change but a completion keeps the history, and leaves the checkpoints alone. -/
theorem checkpointHistory_of_change {db after : Database}
    {completions : List (String × StateJson)} {reading : Reading} {call : RunCall}
    (hhistory : CheckpointHistory db completions) (hchange : RunChange db reading call after)
    (hthreads : after.threadStates = db.threadStates) : CheckpointHistory after completions := by
  refine checkpointHistory_change hhistory (fun _ _ ↦ terminal_row_fixed hchange) ?_
    (fun _ ↦ events_kept hchange) hthreads
  intro runId row hfind hcompleted
  cases hchange with
  | same htables => exact ⟨row, by rw [← htables.1, hfind], hcompleted⟩
  | created run notes hcall hnew hfresh hseed hruns =>
    rw [hruns runId] at hfind
    split_ifs at hfind with heq
    · obtain rfl := Option.some.inj hfind
      rw [createdRow_status hnew] at hcompleted
      cases hcompleted
    · exact ⟨row, hfind, hcompleted⟩
  | rewritten other otherRow rewritten notes hother hrow hruns =>
    rw [hruns runId] at hfind
    split_ifs at hfind with heq
    · obtain rfl := Option.some.inj hfind
      exact ⟨otherRow, heq ▸ hother, hrow.completed_before hcompleted⟩
    · exact ⟨row, hfind, hcompleted⟩
  | completed run token other state hcall hcompletion =>
    -- A completion moves the revision of its thread, so it does not leave the checkpoints alone.
    have hmoved := threadRevision_of_completion hcompletion other.tenantId other.threadId
    rw [if_pos rfl] at hmoved
    simp [threadRevision, hthreads] at hmoved

theorem threadStates_of_change {db after : Database} {reading : Reading} {call : RunCall}
    (hchange : RunChange db reading call after)
    (hcall : ∀ run token, call ≠ .commitCompletedRun run token) :
    after.threadStates = db.threadStates := by
  cases hchange with
  | same htables => exact htables.2.2
  | created run notes hnote hnew hfresh hseed hruns hevents hthreads => exact hthreads
  | rewritten runId row rewritten notes hfind hrow hruns hevents hthreads => exact hthreads
  | completed run token row state heq => exact absurd heq (hcall run token)

/-- A request either completes a Run and notes it, or notes nothing and leaves the checkpoints
alone. -/
theorem completion_or_not (hasher : Hasher) (db : Database) (request : Request) :
    (∃ run token row state,
      completionNote hasher db request = [(run.runId, state.toStateJson)] ∧
        Completion db request.reading run token row state (request.apply hasher db)) ∨
      completionNote hasher db request = [] ∧
        (request.apply hasher db).threadStates = db.threadStates := by
  obtain ⟨reading, call⟩ := request
  by_cases hcompleting : ∃ run token, call = .run (.commitCompletedRun run token)
  · obtain ⟨run, token, rfl⟩ := hcompleting
    cases hperform : commitCompletedRun db reading run token with
    | error error =>
      right
      refine ⟨?_, ?_⟩
      · simp only [completionNote, RunCall.perform, hperform]
      · simp only [Request.apply, Call.perform, RunCall.perform, hperform]
    | ok result =>
      obtain ⟨⟨outcome, record⟩, after⟩ := result
      have happly : Request.apply hasher db ⟨reading, .run (.commitCompletedRun run token)⟩ =
          after := by
        simp only [Request.apply, Call.perform, RunCall.perform, hperform]
      rw [happly]
      rcases commitCompletedRun_eq_ok hperform with ⟨rfl, row, state, hcompletion⟩ |
        ⟨hnot, hchange⟩
      · refine .inl ⟨run, token, row, state, ?_, hcompletion⟩
        simp only [completionNote, RunCall.perform, hperform, hcompletion.given]
      · refine .inr ⟨?_, ?_⟩
        · simp only [completionNote, RunCall.perform, hperform]
          cases outcome <;> simp_all
        · rcases hchange with rfl | ⟨_, _, _, _, _, _, _, _, hthreads⟩
          · rfl
          · exact hthreads
  · right
    refine ⟨?_, ?_⟩
    · unfold completionNote
      split
      · next run token heq => exact absurd ⟨run, token, heq⟩ hcompleting
      · rfl
    · rcases runTables_of_apply hasher db ⟨reading, call⟩ with hsame | ⟨runCall, rfl, hchange⟩
      · exact hsame.2.2
      · exact threadStates_of_change hchange fun run token heq ↦
          hcompleting ⟨run, token, congrArg Call.run heq⟩

theorem checkpointHistory_apply {hasher : Hasher} {db : Database}
    {completions : List (String × StateJson)} (request : Request)
    (hhistory : CheckpointHistory db completions) :
    CheckpointHistory (request.apply hasher db)
      (completions ++ completionNote hasher db request) := by
  rcases completion_or_not hasher db request with
    ⟨run, token, row, state, hnote, hcompletion⟩ | ⟨hnote, hthreads⟩
  · rw [hnote]
    exact checkpointHistory_completion hhistory hcompletion
  · rw [hnote, List.append_nil]
    rcases runTables_of_apply hasher db request with hsame | ⟨call, -, hchange⟩
    · exact checkpointHistory_same hhistory hsame
    · exact checkpointHistory_of_change hhistory hchange hthreads

/-- Along every history the tables record its completions. -/
theorem checkpointHistory_run (hasher : Hasher) (history : List Request) :
    CheckpointHistory ((storeMachine hasher).run Database.empty history)
      ((storeMachine hasher).log (completionNote hasher) Database.empty history) :=
  (storeMachine hasher).invariant_log CheckpointHistory
    (fun _ _ request hhistory _ ↦ checkpointHistory_apply request hhistory)
    checkpointHistory_empty ((storeMachine hasher).admits_true _ _)

/-- The COMPLETED Runs of a thread are its completions. -/
theorem CheckpointHistory.completedRuns_perm {db : Database}
    {completions : List (String × StateJson)} (hhistory : CheckpointHistory db completions)
    (tenantId threadId : String) :
    ((completedRuns db tenantId threadId).map Prod.fst).Perm
      ((inThread db tenantId threadId completions).map Prod.fst) := by
  have hrows : ((completedRuns db tenantId threadId).map Prod.fst).Nodup :=
    (List.filter_sublist.map Prod.fst).nodup db.runs.nodup
  have hmine : ((inThread db tenantId threadId completions).map Prod.fst).Nodup :=
    (List.filter_sublist.map Prod.fst).nodup hhistory.nodup
  refine (List.perm_ext_iff_of_nodup hrows hmine).mpr fun runId ↦ ⟨fun hmem ↦ ?_, fun hmem ↦ ?_⟩
  · obtain ⟨⟨_, row⟩, hentry, rfl⟩ := List.mem_map.mp hmem
    simp only [completedRuns, List.mem_filter, Table.mem_rows_iff, Bool.and_eq_true,
      beq_iff_eq] at hentry
    obtain ⟨hfind, ⟨htenant, hthread⟩, hcompleted⟩ := hentry
    obtain ⟨⟨_, body⟩, hbody, rfl⟩ := List.mem_map.mp (hhistory.complete _ row hfind hcompleted)
    refine List.mem_map.mpr ⟨_, List.mem_filter.mpr ⟨hbody, ?_⟩, rfl⟩
    simp only [belongs, hfind, htenant, hthread, beq_self_eq_true, Bool.and_self]
  · obtain ⟨⟨_, body⟩, hentry, rfl⟩ := List.mem_map.mp hmem
    obtain ⟨hbody, hbelongs⟩ := List.mem_filter.mp hentry
    obtain ⟨row, hfind, hcompleted, -⟩ := hhistory.recorded _ body hbody
    simp only [belongs, hfind, Bool.and_eq_true, beq_iff_eq] at hbelongs
    refine List.mem_map.mpr ⟨(_, row), ?_, rfl⟩
    simp only [completedRuns, List.mem_filter, Table.mem_rows_iff, Bool.and_eq_true, beq_iff_eq]
    exact ⟨hfind, hbelongs, hcompleted⟩

/-- The Run has captured this checkpoint base. -/
def HasBase (runId : String) (base : Nat) (db : Database) : Prop :=
  ∃ row, db.runs.find runId = some row ∧ row.checkpointBaseRevision = some base

theorem hasBase_apply {hasher : Hasher} {db : Database} {request : Request} {runId : String}
    {base : Nat} (hbase : HasBase runId base db) :
    HasBase runId base (request.apply hasher db) := by
  obtain ⟨row, hfind, hrow⟩ := hbase
  rcases runTables_of_apply hasher db request with hsame | ⟨call, -, hchange⟩
  · exact ⟨row, by rw [hsame.1, hfind], hrow⟩
  · exact base_fixed hchange hfind hrow

/-- No lost checkpoint update. After any requests, for each thread: its revision is the number of
its COMPLETED Runs; these are its completions in commit order, and the `k`-th of them (from 0) has
checkpoint base `k` and a `checkpoint.saved` event from `k` to `k + 1`, and its row keeps the state
it was committed with; the stored checkpoint is the projection of the last one, with its domain and
schema. A captured base never changes, whatever follows, and a request that completes no Run leaves
the checkpoint table as it was. -/
theorem checkpoint_history_of_run (hasher : Hasher) (history : List Request) :
    let db := (storeMachine hasher).run Database.empty history
    let completions := (storeMachine hasher).log (completionNote hasher) Database.empty history
    (∀ tenantId threadId,
      let mine := inThread db tenantId threadId completions
      threadRevision db tenantId threadId = (completedRuns db tenantId threadId).length ∧
        ((completedRuns db tenantId threadId).map Prod.fst).Perm (mine.map Prod.fst) ∧
        (∀ k runId body, mine[k]? = some (runId, body) →
          (∃ row, db.runs.find runId = some row ∧ row.checkpointBaseRevision = some k ∧
            row.stateJson = some body) ∧ SavedOn db runId k) ∧
        match mine.getLast? with
        | none => db.threadStates.find (tenantId, threadId) = none
        | some (runId, body) => ∃ row checkpoint, db.runs.find runId = some row ∧
          db.threadStates.find (tenantId, threadId) = some checkpoint ∧
          checkpoint.domainId = row.domainId ∧ checkpoint.schemaVersion = row.schemaVersion ∧
          checkpoint.stateJson = (projectThreadCheckpointState
            { toStateJson := body, domainId := row.domainId
              schemaVersion := row.schemaVersion }).toStateJson) ∧
      (∀ more runId base, HasBase runId base db →
        HasBase runId base ((storeMachine hasher).run db more)) ∧
      ∀ request, completionNote hasher db request = [] →
        (request.apply hasher db).threadStates = db.threadStates := by
  intro db completions
  have hhistory : CheckpointHistory db completions := checkpointHistory_run hasher history
  refine ⟨fun tenantId threadId ↦ ⟨?_, ?_, ?_, ?_⟩, ?_, ?_⟩
  · have hperm := hhistory.completedRuns_perm tenantId threadId
    have hlength := hperm.length_eq
    rw [List.length_map, List.length_map] at hlength
    rw [hhistory.revision, hlength]
  · exact hhistory.completedRuns_perm tenantId threadId
  · intro k runId body hget
    obtain ⟨⟨row, hfind, hbase⟩, hsaved⟩ := hhistory.position tenantId threadId k runId body hget
    obtain ⟨found, hfound, -, hstate⟩ := hhistory.recorded runId body
      (List.mem_filter.mp (List.mem_of_getElem? hget)).1
    obtain rfl : row = found := Option.some.inj (hfind.symm.trans hfound)
    exact ⟨⟨row, hfind, hbase, hstate⟩, hsaved⟩
  · split
    · next hnone =>
      exact hhistory.empty tenantId threadId (List.getLast?_eq_none_iff.mp hnone)
    · next runId body hlast => exact hhistory.last tenantId threadId runId body hlast
  · intro more runId base hbase
    exact (storeMachine hasher).invariant_run (HasBase runId base)
      (fun _ _ hkept _ ↦ hasBase_apply hkept) hbase ((storeMachine hasher).admits_true _ more)
  · intro request hnote
    rcases completion_or_not hasher db request with
      ⟨run, token, row, state, hsome, -⟩ | ⟨-, hthreads⟩
    · rw [hnote] at hsome
      cases hsome
    · exact hthreads

end AgentRuntime.Store
