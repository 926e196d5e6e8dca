import AgentRuntime.Store.WorkflowTransitions

/-!
# One Run per client request

The unique index of `runs` over `(tenant_id, client_request_id)` is checked by the insert of a new
Run and by the cancelling commit, which writes the column of its record; every other operation keeps
the column. So at most one row of a tenant holds a request (`RequestsUnique`), whatever was done to
the stores, and `get_run_by_client_request_id` finds that row and no other.
-/

set_option autoImplicit false
set_option relaxedAutoImplicit false

namespace AgentRuntime.Store

open Library

/-- No two Runs of a tenant hold the same `client_request_id`. -/
def RequestsUnique (db : Database) : Prop :=
  ∀ runId other row otherRow, db.runs.find runId = some row → db.runs.find other = some otherRow →
    row.tenantId = otherRow.tenantId → row.clientRequestId = otherRow.clientRequestId →
    row.clientRequestId ≠ none → runId = other

theorem clientRequestTaken_iff (db : Database) (runId : String) (row : RunRow) :
    clientRequestTaken db runId row = true ↔
      row.clientRequestId ≠ none ∧ ∃ other otherRow, db.runs.find other = some otherRow ∧
        other ≠ runId ∧ otherRow.tenantId = row.tenantId ∧
        otherRow.clientRequestId = row.clientRequestId := by
  simp only [clientRequestTaken, Bool.and_eq_true, List.any_eq_true, Prod.exists,
    Table.mem_rows_iff, bne_iff_ne, beq_iff_eq, Option.isSome_iff_ne_none, and_assoc]

/-- The row keeps the indexed columns of the row it replaces, or passed the check of the index. -/
def Indexed (db : Database) (runId : String) (row : RunRow) : Prop :=
  (∃ before, db.runs.find runId = some before ∧ row.tenantId = before.tenantId ∧
    row.clientRequestId = before.clientRequestId) ∨
  clientRequestTaken db runId row = false

/-- One indexed row does not break the index. -/
theorem RequestsUnique.rewrites {db after : Database} {runId : String} {row : RunRow}
    (hunique : RequestsUnique db) (hindexed : Indexed db runId row)
    (hruns : RewritesRun db after runId row) : RequestsUnique after := by
  -- The new row against an old one, in either order.
  have hnew (other : String) (otherRow : RunRow) (hother : db.runs.find other = some otherRow)
      (htenant : row.tenantId = otherRow.tenantId)
      (hrequest : row.clientRequestId = otherRow.clientRequestId)
      (hsome : row.clientRequestId ≠ none) : runId = other := by
    rcases hindexed with ⟨before, hbefore, hsame, hkept⟩ | hfree
    · exact hunique runId other before otherRow hbefore hother (hsame.symm.trans htenant)
        (hkept.symm.trans hrequest) (hkept ▸ hsome)
    · by_contra hne
      have htaken := (clientRequestTaken_iff db runId row).2
        ⟨hsome, other, otherRow, hother, Ne.symm hne, htenant.symm, hrequest.symm⟩
      rw [hfree] at htaken
      cases htaken
  intro first second firstRow secondRow hfirst hsecond htenant hrequest hsome
  rw [hruns] at hfirst hsecond
  by_cases hfirstRun : first = runId
  · by_cases hsecondRun : second = runId
    · exact hfirstRun.trans hsecondRun.symm
    · rw [if_pos hfirstRun] at hfirst
      rw [if_neg hsecondRun] at hsecond
      obtain rfl := Option.some.inj hfirst
      exact hfirstRun.trans (hnew second secondRow hsecond htenant hrequest hsome)
  · rw [if_neg hfirstRun] at hfirst
    by_cases hsecondRun : second = runId
    · rw [if_pos hsecondRun] at hsecond
      obtain rfl := Option.some.inj hsecond
      exact (hsecondRun.trans
        (hnew first firstRow hfirst htenant.symm hrequest.symm (hrequest ▸ hsome))).symm
    · rw [if_neg hsecondRun] at hsecond
      exact hunique first second firstRow secondRow hfirst hsecond htenant hrequest hsome

/-- The insert checks the index. -/
theorem indexed_of_insertRun {db inserted : Database} {run : RunRecord}
    (hinsert : insertRun db run = .ok inserted) : Indexed db run.runId (createdRow run) := by
  unfold insertRun at hinsert
  split_ifs at hinsert with _ htaken
  refine .inr ?_
  rw [← Bool.not_eq_true]
  rw [clientRequestTaken_iff] at htaken ⊢
  have hcolumns : (createdRow run).clientRequestId = (runValues run).clientRequestId ∧
      (createdRow run).tenantId = (runValues run).tenantId := by
    unfold createdRow
    split_ifs <;> exact ⟨rfl, rfl⟩
  rwa [hcolumns.1, hcolumns.2]

theorem indexed_of_createRun {db after : Database} {run reply : RunRecord}
    (hok : createRun db run = .ok (reply, after)) : Indexed db run.runId (createdRow run) := by
  unfold createRun at hok
  split at hok
  · cases hok
  · split at hok
    · cases hok
    · next inserted hinsert => exact indexed_of_insertRun hinsert

theorem indexed_of_createRunWithEvent {db after : Database} {reading : Reading}
    {run reply : RunRecord} {eventType : String} {payload : Payload}
    (hok : createRunWithEvent db reading run eventType payload = .ok (reply, after)) :
    Indexed db run.runId (createdRow run) := by
  unfold createRunWithEvent at hok
  split at hok
  · cases hok
  · split_ifs at hok
    split at hok
    · cases hok
    · next inserted hinsert => exact indexed_of_insertRun hinsert

/-- The cancelling commit checks the index, or changed nothing. -/
theorem indexed_of_commitCancelledRun {db after : Database} {reading : Reading} {run : RunRecord}
    {reason token : String} {reply : RunCommitOutcome × RunRecord} {row : RunRow}
    (hok : commitCancelledRun db reading run reason token = .ok (reply, after))
    (hfind : db.runs.find run.runId = some row)
    (hruns : RewritesRun db after run.runId (cancelledRow row run (reading.utcNow 0))) :
    Indexed db run.runId (cancelledRow row run (reading.utcNow 0)) := by
  unfold commitCancelledRun at hok
  split at hok
  · -- A refused commit left the row, so the rewritten row is the row itself.
    rw [(refuseCommit_eq_ok hok).1] at hruns
    have hsame := hruns run.runId
    rw [if_pos rfl, hfind] at hsame
    obtain hrow := Option.some.inj hsame
    exact .inl ⟨row, hfind, by rw [← hrow], by rw [← hrow]⟩
  · next found hfound =>
    simp only at hok
    split_ifs at hok with htaken
    simp only [Option.filter_eq_some_iff, findRunForTenant_eq_some_iff] at hfound
    obtain rfl : found = row := Option.some.inj (hfound.1.1.symm.trans hfind)
    exact .inr (Bool.not_eq_true _ ▸ htaken)

/-- Every operation keeps the index. -/
theorem requestsUnique_perform {hasher : Hasher} {db after : Database} {reading : Reading}
    {call : RunCall} {reply : call.Reply} (hunique : RequestsUnique db)
    (hok : call.perform hasher db reading = .ok (reply, after)) : RequestsUnique after := by
  cases change_of_perform hok with
  | same htables =>
    unfold RequestsUnique
    rw [htables.1]
    exact hunique
  | created run notes hcall _ _ _ hruns =>
    refine hunique.rewrites ?_ hruns
    rcases hcall with ⟨rfl, -⟩ | ⟨payload, rfl, -⟩
    · exact indexed_of_createRun hok
    · exact indexed_of_createRunWithEvent hok
  | rewritten runId row rewritten notes hfind hchange hruns =>
    refine hunique.rewrites ?_ hruns
    cases hchange with
    | cancel run token reason hcall hrun =>
      subst hcall hrun
      exact indexed_of_commitCancelledRun hok hfind hruns
    | claimQueued | takeover | renew | expire | marker | attemptEvent | controlEvent
    | requestCancel | cancelQueued | fail | conflict | quarantine | resolve =>
      exact .inl ⟨row, hfind, rfl, rfl⟩
  | completed run token row state hcall hcompletion =>
    refine hunique.rewrites ?_ hcompletion.runs
    exact .inl ⟨row, hcompletion.find, rfl, rfl⟩

/-- What `get_run_by_client_request_id` finds. -/
theorem getRunByClientRequestId_eq_some_iff {db : Database} (hunique : RequestsUnique db)
    (tenantId clientRequestId : String) (record : RunRecord) :
    getRunByClientRequestId db tenantId clientRequestId = some record ↔
      ∃ runId row, db.runs.find runId = some row ∧ row.tenantId = tenantId ∧
        row.clientRequestId = some clientRequestId ∧ record = rowToRun runId row := by
  unfold getRunByClientRequestId
  constructor
  · intro hfound
    obtain ⟨entry, hentry, rfl⟩ := Option.map_eq_some_iff.1 hfound
    have hmatch := List.find?_some hentry
    simp only [Bool.and_eq_true, beq_iff_eq] at hmatch
    exact ⟨entry.1, entry.2, (Table.mem_rows_iff _ _ _).1 (List.mem_of_find?_eq_some hentry),
      hmatch.1, hmatch.2, rfl⟩
  · rintro ⟨runId, row, hfind, rfl, hrequest, rfl⟩
    cases hentry : db.runs.rows.find? fun entry ↦
        entry.2.tenantId == row.tenantId && entry.2.clientRequestId == some clientRequestId with
    | none =>
      have hnone := List.find?_eq_none.1 hentry (runId, row) ((Table.mem_rows_iff _ _ _).2 hfind)
      simp [hrequest] at hnone
    | some entry =>
      have hmatch := List.find?_some hentry
      simp only [Bool.and_eq_true, beq_iff_eq] at hmatch
      have hother := (Table.mem_rows_iff _ _ _).1 (List.mem_of_find?_eq_some hentry)
      have hsame : entry.1 = runId :=
        hunique entry.1 runId entry.2 row hother hfind hmatch.1 (hmatch.2.trans hrequest.symm)
          (by simp [hmatch.2])
      rw [hsame, hfind] at hother
      obtain hrow := Option.some.inj hother
      simp [hsame, hrow]

theorem requestsUnique_empty : RequestsUnique Database.empty := by
  intro runId other row otherRow hfind
  cases hfind

/-- A request of any store keeps the index. -/
theorem requestsUnique_apply {hasher : Hasher} {db : Database} {request : Request}
    (hunique : RequestsUnique db) : RequestsUnique (request.apply hasher db) := by
  rcases runTables_of_apply hasher db request with hsame | ⟨call, hcall, -⟩
  · unfold RequestsUnique
    rw [hsame.1]
    exact hunique
  · obtain ⟨reading, _⟩ := request
    subst hcall
    cases hperform : (Call.run call).perform hasher db reading with
    | error error =>
      rw [apply_of_error hperform]
      exact hunique
    | ok result =>
      obtain ⟨reply, after⟩ := result
      rw [apply_of_ok hperform]
      exact requestsUnique_perform hunique hperform

end AgentRuntime.Store
