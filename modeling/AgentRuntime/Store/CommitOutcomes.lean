import AgentRuntime.Store.ClientRequests

/-!
# The outcomes of the commit operations

Five operations end or mark an attempt under one guard: the Run is RUNNING, under the given lease
token, before its expiry (`AttemptGuard`). Each writes the guard in its own form and asks
`_classify_commit_outcome` for the reason when the guard or its own condition fails.
`commit_outcome_iff` gives, for every reachable state, the exact condition of each outcome of each
operation; only a commit or a checkpoint conflict changes a table. `commitCancelledRun` also
accepts a QUEUED Run; in a reachable state such a Run holds no lease (`leasedRunning_run`), so its
guard is the guard of the others.

One call returns no outcome under its guard: a completion whose thread holds a checkpoint of
another domain or schema version is refused with a `ValueError`
(`commitCompletedRun_of_identity`). `create_run` does not look at the binding, so such a Run
exists, and `completed_under_guard_raises` reaches it.
-/

set_option autoImplicit false
set_option relaxedAutoImplicit false

namespace AgentRuntime.Store

open Library

/-! ### Only a RUNNING Run holds a lease -/

/-- A Run with a lease token is RUNNING. -/
def LeasedRunning (db : Database) : Prop :=
  ∀ runId row, db.runs.find runId = some row → row.leaseToken ≠ none → row.status = .running

theorem RowChange.leased_running {db : Database} {reading : Reading} {call : RunCall}
    {runId : String} {row rewritten : RunRow} {notes : List Note}
    (hchange : RowChange db reading call runId row rewritten notes)
    (hrow : row.leaseToken ≠ none → row.status = .running)
    (hleased : rewritten.leaseToken ≠ none) : rewritten.status = .running := by
  cases hchange with
  | claimQueued | takeover => rfl
  | renew | expire | marker | attemptEvent | controlEvent | requestCancel => exact hrow hleased
  | cancelQueued | fail | conflict | cancel | quarantine | resolve => exact absurd rfl hleased

theorem leasedRunning_of_rewrites {db after : Database} {runId : String} {row : RunRow}
    (hleased : LeasedRunning db) (hruns : RewritesRun db after runId row)
    (hrow : row.leaseToken ≠ none → row.status = .running) : LeasedRunning after := by
  intro other otherRow hfind htoken
  rw [hruns] at hfind
  by_cases hother : other = runId
  · rw [if_pos hother] at hfind
    obtain rfl := Option.some.inj hfind
    exact hrow htoken
  · rw [if_neg hother] at hfind
    exact hleased other otherRow hfind htoken

theorem leasedRunning_same {db after : Database} (hleased : LeasedRunning db)
    (hsame : SameRunTables db after) : LeasedRunning after := by
  unfold LeasedRunning
  rw [hsame.1]
  exact hleased

theorem leasedRunning_change {db after : Database} {reading : Reading} {call : RunCall}
    (hleased : LeasedRunning db) (hchange : RunChange db reading call after) :
    LeasedRunning after := by
  cases hchange with
  | same htables => exact leasedRunning_same hleased htables
  | created run notes _ hnew _ _ hruns =>
    exact leasedRunning_of_rewrites hleased hruns fun htoken ↦
      absurd (createdRow_leaseToken hnew) htoken
  | rewritten runId row rewritten notes hfind hrow hruns =>
    exact leasedRunning_of_rewrites hleased hruns (hrow.leased_running (hleased runId row hfind))
  | completed run token row state _ hcompletion =>
    exact leasedRunning_of_rewrites hleased hcompletion.runs fun htoken ↦ absurd rfl htoken

theorem leasedRunning_empty : LeasedRunning Database.empty := by
  intro runId row hfind
  cases hfind

/-- In every reachable state only a RUNNING Run holds a lease. -/
theorem leasedRunning_run (hasher : Hasher) (history : List Request) :
    LeasedRunning ((storeMachine hasher).run Database.empty history) := by
  refine (storeMachine hasher).invariant_run LeasedRunning (fun db request hleased _ ↦ ?_)
    leasedRunning_empty ((storeMachine hasher).admits_true _ _)
  rcases runTables_of_apply hasher db request with hsame | ⟨call, -, hchange⟩
  · exact leasedRunning_same hleased hsame
  · exact leasedRunning_change hleased hchange

theorem requestsUnique_run (hasher : Hasher) (history : List Request) :
    RequestsUnique ((storeMachine hasher).run Database.empty history) :=
  (storeMachine hasher).invariant_run RequestsUnique (fun _ _ hunique _ ↦
    requestsUnique_apply hunique) requestsUnique_empty ((storeMachine hasher).admits_true _ _)

/-! ### The operations and their conditions -/

/-- The commit operations of an attempt, with their arguments other than the lease token. -/
inductive CommitCall where
  | reconciliationPending (runId tenantId errorCode error : String)
  | failed (run : RunRecord) (errorCode error : String) (tracebackText : Option String)
    (allowCancelRequested : Bool)
  | cancelled (run : RunRecord) (reason : String)
  | completed (run : RunRecord)
  | checkpointConflict (run : RunRecord) (phase : String)

/-- The guard all commits share: RUNNING, under this token, before the expiry. -/
def AttemptGuard (row : RunRow) (token : String) (nowMs : Int) : Prop :=
  row.status = .running ∧ row.holdsLease token nowMs = true

/-- The thread of a Run has no checkpoint of another domain or schema version. -/
def ThreadAvailable (db : Database) (row : RunRow) : Prop :=
  ∀ existing, db.threadStates.find (row.tenantId, row.threadId) = some existing →
    existing.domainId = row.domainId ∧ existing.schemaVersion = row.schemaVersion

/-- The Run started from the revision its thread has. -/
def BaseCurrent (db : Database) (row : RunRow) : Prop :=
  row.checkpointBaseRevision = some (threadRevision db row.tenantId row.threadId)

namespace CommitCall

def runId : CommitCall → String
  | reconciliationPending runId _ _ _ => runId
  | failed run .. | cancelled run _ | completed run | checkpointConflict run _ => run.runId

def tenantId : CommitCall → String
  | reconciliationPending _ tenantId _ _ => tenantId
  | failed run .. | cancelled run _ | completed run | checkpointConflict run _ => run.tenantId

/-- The store call a commit makes. -/
def request (token : String) : CommitCall → RunCall
  | reconciliationPending runId tenantId code error =>
    .commitReconciliationPending runId tenantId token code error
  | failed run code error traceback allow => .commitFailedRun run token code error traceback allow
  | cancelled run reason => .commitCancelledRun run reason token
  | completed run => .commitCompletedRun run token
  | checkpointConflict run phase => .commitCheckpointConflict run token phase

/-- The outcome and the tables of a commit that also returns its record. -/
def outcomeOf (reply : Except StoreError ((RunCommitOutcome × RunRecord) × Database)) :
    Except StoreError (RunCommitOutcome × Database) :=
  reply.map fun result ↦ (result.1.1, result.2)

/-- Run a commit and keep its outcome. -/
def perform (db : Database) (reading : Reading) (token : String) :
    CommitCall → Except StoreError (RunCommitOutcome × Database)
  | reconciliationPending runId tenantId code error =>
    commitReconciliationPending db reading runId tenantId token code error
  | failed run code error traceback allow =>
    outcomeOf (commitFailedRun db reading run token code error traceback allow)
  | cancelled run reason => outcomeOf (commitCancelledRun db reading run reason token)
  | completed run => outcomeOf (commitCompletedRun db reading run token)
  | checkpointConflict run phase =>
    outcomeOf (commitCheckpointConflict db reading run token phase)

/-- What an operation requires beside the guard to commit. -/
def Allowed (db : Database) (row : RunRow) : CommitCall → Prop
  | reconciliationPending .. => True
  | failed _ _ _ _ allow => row.cancelRequested = false ∨ allow = true
  | cancelled .. => row.cancelRequested = true
  | completed _ => row.cancelRequested = false ∧ BaseCurrent db row ∧ ThreadAvailable db row
  | checkpointConflict .. => False

/-- When an operation that holds the guard reports a checkpoint conflict. -/
def Conflicts (db : Database) (row : RunRow) : CommitCall → Prop
  | completed _ => row.cancelRequested = false ∧ ¬ BaseCurrent db row
  | checkpointConflict .. => row.cancelRequested = false
  | reconciliationPending .. | failed .. | cancelled .. => False

/-- When the cancel flag blocks an operation that holds the guard. -/
def BlockedByCancel (row : RunRow) : CommitCall → Prop
  | failed _ _ _ _ allow => row.cancelRequested = true ∧ allow = false
  | completed _ | checkpointConflict .. => row.cancelRequested = true
  | reconciliationPending .. | cancelled .. => False

/-- A cancellation nobody requested. -/
def Unrequested (row : RunRow) : CommitCall → Prop
  | cancelled .. => row.cancelRequested = false
  | reconciliationPending .. | failed .. | completed _ | checkpointConflict .. => False

/-- A completion that only the binding of its thread stands against. -/
def BoundElsewhere (db : Database) (row : RunRow) : CommitCall → Prop
  | completed _ => row.cancelRequested = false ∧ BaseCurrent db row ∧ ¬ ThreadAvailable db row
  | reconciliationPending .. | failed .. | cancelled .. | checkpointConflict .. => False

/-- The record a call carries is of the persisted Run: a cancellation keeps its request id, and a
completion brings a state of its identity. -/
def RecordOf (row : RunRow) : CommitCall → Prop
  | cancelled run _ => run.clientRequestId = row.clientRequestId
  | completed run =>
    (run.threadId, run.domainId, run.schemaVersion) =
        (row.threadId, row.domainId, row.schemaVersion) ∧
      ∃ state, run.state = some state ∧ (state.threadId, state.domainId, state.schemaVersion) =
        (row.threadId, row.domainId, row.schemaVersion)
  | reconciliationPending .. | failed .. | checkpointConflict .. => True

end CommitCall

/-! ### What each outcome says -/

/-- An outcome and the tables it leaves, against the row the commit found. -/
structure Classified (db : Database) (reading : Reading) (token : String) (row : RunRow)
    (call : CommitCall) (outcome : RunCommitOutcome) (after : Database) : Prop where
  committed : outcome = .committed ↔ AttemptGuard row token reading.nowMs ∧ call.Allowed db row
  checkpointConflict : outcome = .checkpointConflict ↔
    AttemptGuard row token reading.nowMs ∧ call.Conflicts db row
  alreadyTerminal : outcome = .alreadyTerminal ↔ row.status.isTerminal = true
  leaseLost : outcome = .leaseLost ↔
    row.status.isTerminal = false ∧ row.holdsLease token reading.nowMs = false
  cancelRequested : outcome = .cancelRequested ↔
    AttemptGuard row token reading.nowMs ∧ call.BlockedByCancel row
  notEligible : outcome = .notEligible ↔
    AttemptGuard row token reading.nowMs ∧ call.Unrequested row
  unchanged : outcome ≠ .committed → outcome ≠ .checkpointConflict → after = db

section Cases

variable {db after : Database} {reading : Reading} {token : String} {row : RunRow}
  {call : CommitCall}

theorem AttemptGuard.not_terminal (hguard : AttemptGuard row token reading.nowMs) :
    row.status.isTerminal = false := by
  rw [hguard.1]
  rfl

/-- What allows a commit excludes every reason to refuse it. -/
theorem CommitCall.Allowed.excludes (hallowed : call.Allowed db row) :
    ¬ call.Conflicts db row ∧ ¬ call.BlockedByCancel row ∧ ¬ call.Unrequested row := by
  cases call <;> cases hflag : row.cancelRequested <;>
    simp_all [CommitCall.Allowed, CommitCall.Conflicts, CommitCall.BlockedByCancel,
      CommitCall.Unrequested]

theorem CommitCall.Conflicts.excludes (hconflicts : call.Conflicts db row) :
    ¬ call.Allowed db row ∧ ¬ call.BlockedByCancel row ∧ ¬ call.Unrequested row := by
  cases call <;>
    simp_all [CommitCall.Allowed, CommitCall.Conflicts, CommitCall.BlockedByCancel,
      CommitCall.Unrequested]

theorem classified_committed (hguard : AttemptGuard row token reading.nowMs)
    (hallowed : call.Allowed db row) :
    Classified db reading token row call .committed after := by
  obtain ⟨hconflicts, hblocked, hunrequested⟩ := hallowed.excludes
  have hactive := hguard.not_terminal
  have hlease := hguard.2
  constructor <;> simp_all

theorem classified_conflict (hguard : AttemptGuard row token reading.nowMs)
    (hconflicts : call.Conflicts db row) :
    Classified db reading token row call .checkpointConflict after := by
  obtain ⟨hallowed, hblocked, hunrequested⟩ := hconflicts.excludes
  have hactive := hguard.not_terminal
  have hlease := hguard.2
  constructor <;> simp_all

/-- `_classify_commit_outcome` names the reason of a refusal: under the guard the cancel flag
decides between the two reasons an operation can have. -/
theorem classified_refused (call : CommitCall)
    (hleased : row.leaseToken ≠ none → row.status = .running)
    (hrow : findRunForTenant db call.runId call.tenantId = some row)
    (hrefused : AttemptGuard row token reading.nowMs →
      ¬ call.Allowed db row ∧ ¬ call.Conflicts db row ∧
        (call.BlockedByCancel row ↔ row.cancelRequested = true) ∧
        (call.Unrequested row ↔ row.cancelRequested = false)) :
    ∃ outcome, classifyCommitOutcome db call.runId call.tenantId token reading.nowMs = .ok outcome ∧
      Classified db reading token row call outcome db := by
  unfold classifyCommitOutcome
  rw [hrow]
  dsimp only
  by_cases hterminal : row.status.isTerminal = true
  · have hguard : ¬ AttemptGuard row token reading.nowMs := by
      intro hguard
      rw [hguard.not_terminal] at hterminal
      cases hterminal
    rw [if_pos hterminal]
    refine ⟨_, rfl, ?_⟩
    constructor <;> simp [hguard, hterminal]
  · rw [if_neg hterminal]
    by_cases hlease : row.holdsLease token reading.nowMs = true
    · -- Only a RUNNING Run holds a lease, so the whole guard holds.
      have htoken : row.leaseToken ≠ none := by
        rw [((holdsLease_iff row token reading.nowMs).mp hlease).1]
        simp
      have hguard : AttemptGuard row token reading.nowMs := ⟨hleased htoken, hlease⟩
      obtain ⟨hallowed, hconflicts, hblocked, hunrequested⟩ := hrefused hguard
      cases hflag : row.cancelRequested <;>
        · simp only [hlease, Bool.not_true, Bool.false_eq_true, if_false, if_true]
          refine ⟨_, rfl, ?_⟩
          constructor <;> simp [hguard, hallowed, hconflicts, hblocked, hunrequested, hflag,
            hterminal, hlease]
    · have hguard : ¬ AttemptGuard row token reading.nowMs := fun hguard ↦ hlease hguard.2
      simp only [hlease, Bool.not_false, if_true]
      refine ⟨_, rfl, ?_⟩
      constructor <;> simp [hguard, hterminal, hlease]

end Cases

/-! ### The five operations -/

section Operations

variable {db : Database} {reading : Reading} {token : String} {row : RunRow}

/-- A commit that refused reports the outcome `_classify_commit_outcome` found. -/
theorem outcomeOf_refuseCommit {run : RunRecord} {outcome : RunCommitOutcome}
    (houtcome : classifyCommitOutcome db run.runId run.tenantId token reading.nowMs =
      .ok outcome) :
    CommitCall.outcomeOf (refuseCommit db run token reading.nowMs) = .ok (outcome, db) := by
  unfold refuseCommit
  rw [houtcome]
  rfl

theorem currentAttempt_of_guard {runId tenantId : String}
    (hrow : findRunForTenant db runId tenantId = some row)
    (hguard : AttemptGuard row token reading.nowMs) :
    currentAttempt db runId token reading.nowMs = some row ∧ row.tenantId = tenantId := by
  obtain ⟨hfind, htenant⟩ := (findRunForTenant_eq_some_iff db runId tenantId row).mp hrow
  exact ⟨(currentAttempt_eq_some_iff db runId token reading.nowMs row).mpr
    ⟨hfind, hguard.1, hguard.2⟩, htenant⟩

theorem currentAttempt_of_not_guard {runId tenantId : String}
    (hrow : findRunForTenant db runId tenantId = some row)
    (hguard : ¬ AttemptGuard row token reading.nowMs) :
    currentAttempt db runId token reading.nowMs = none := by
  obtain ⟨hfind, -⟩ := (findRunForTenant_eq_some_iff db runId tenantId row).mp hrow
  cases hattempt : currentAttempt db runId token reading.nowMs with
  | none => rfl
  | some current =>
    obtain ⟨hcurrent, hstatus, hlease⟩ :=
      (currentAttempt_eq_some_iff db runId token reading.nowMs current).mp hattempt
    rw [hfind] at hcurrent
    obtain rfl := Option.some.inj hcurrent
    exact absurd ⟨hstatus, hlease⟩ hguard

theorem reconciliationPending_classified {runId tenantId code error : String}
    (hleased : row.leaseToken ≠ none → row.status = .running)
    (hrow : findRunForTenant db runId tenantId = some row) :
    ∃ outcome after, commitReconciliationPending db reading runId tenantId token code error =
        .ok (outcome, after) ∧
      Classified db reading token row (.reconciliationPending runId tenantId code error) outcome
        after := by
  unfold commitReconciliationPending
  by_cases hguard : AttemptGuard row token reading.nowMs
  · obtain ⟨hattempt, htenant⟩ := currentAttempt_of_guard hrow hguard
    simp only [hattempt, Option.filter_some, htenant, beq_self_eq_true, if_true]
    exact ⟨_, _, rfl, classified_committed hguard trivial⟩
  · obtain ⟨outcome, houtcome, hclassified⟩ :=
      classified_refused (.reconciliationPending runId tenantId code error) hleased hrow
        fun hheld ↦ absurd hheld hguard
    have hreason : classifyCommitOutcome db runId tenantId token reading.nowMs = .ok outcome :=
      houtcome
    rw [currentAttempt_of_not_guard hrow hguard, Option.filter_none, hreason]
    exact ⟨outcome, db, rfl, hclassified⟩

theorem failed_classified {run : RunRecord} {code error : String} {traceback : Option String}
    {allow : Bool} (hleased : row.leaseToken ≠ none → row.status = .running)
    (hrow : findRunForTenant db run.runId run.tenantId = some row) :
    ∃ outcome after, CommitCall.outcomeOf
        (commitFailedRun db reading run token code error traceback allow) = .ok (outcome, after) ∧
      Classified db reading token row (.failed run code error traceback allow) outcome after := by
  unfold commitFailedRun
  by_cases hcommits : AttemptGuard row token reading.nowMs ∧
      (row.cancelRequested = false ∨ allow = true)
  · obtain ⟨hguard, hallowed⟩ := hcommits
    obtain ⟨hattempt, htenant⟩ := currentAttempt_of_guard hrow hguard
    have hpasses : (row.tenantId == run.tenantId && (!row.cancelRequested || allow)) = true := by
      simpa [htenant] using hallowed
    rw [hattempt, Option.filter_some, if_pos hpasses]
    exact ⟨_, _, rfl, classified_committed hguard hallowed⟩
  · have hblocked (hguard : AttemptGuard row token reading.nowMs) :
        row.cancelRequested = true ∧ allow = false := by
      simpa [hguard] using hcommits
    obtain ⟨outcome, houtcome, hclassified⟩ :=
      classified_refused (.failed run code error traceback allow) hleased hrow fun hguard ↦ by
        simp [CommitCall.Allowed, CommitCall.Conflicts, CommitCall.BlockedByCancel,
          CommitCall.Unrequested, hblocked hguard]
    have hnone : ((currentAttempt db run.runId token reading.nowMs).filter fun current ↦
        current.tenantId == run.tenantId && (!current.cancelRequested || allow)) = none := by
      by_cases hguard : AttemptGuard row token reading.nowMs
      · rw [(currentAttempt_of_guard hrow hguard).1]
        exact Option.filter_some_neg (by simp [hblocked hguard])
      · rw [currentAttempt_of_not_guard hrow hguard, Option.filter_none]
    rw [hnone]
    exact ⟨outcome, db, outcomeOf_refuseCommit houtcome, hclassified⟩

/-- A cancellation that keeps the request id of its Run passes the index on request ids. -/
theorem clientRequestTaken_cancelledRow {run : RunRecord} (completedAt : String)
    (hunique : RequestsUnique db) (hfind : db.runs.find run.runId = some row)
    (hrequest : run.clientRequestId = row.clientRequestId) :
    clientRequestTaken db run.runId (cancelledRow row run completedAt) = false := by
  rw [Bool.eq_false_iff]
  intro htaken
  obtain ⟨hgiven, other, otherRow, hother, hne, htenant, hsame⟩ :=
    (clientRequestTaken_iff db run.runId _).mp htaken
  have hgivenRow : otherRow.clientRequestId ≠ none := by
    rw [hsame]
    exact hgiven
  exact hne (hunique other run.runId otherRow row hother hfind htenant (hsame.trans hrequest)
    hgivenRow)

theorem cancelled_classified {run : RunRecord} {reason : String} (hunique : RequestsUnique db)
    (hleased : row.leaseToken ≠ none → row.status = .running)
    (hrow : findRunForTenant db run.runId run.tenantId = some row)
    (hrequest : run.clientRequestId = row.clientRequestId) :
    ∃ outcome after, CommitCall.outcomeOf (commitCancelledRun db reading run reason token) =
        .ok (outcome, after) ∧
      Classified db reading token row (.cancelled run reason) outcome after := by
  have hfind := ((findRunForTenant_eq_some_iff db run.runId run.tenantId row).mp hrow).1
  unfold commitCancelledRun
  rw [hrow]
  by_cases hcommits : AttemptGuard row token reading.nowMs ∧ row.cancelRequested = true
  · obtain ⟨⟨hstatus, hlease⟩, hflag⟩ := hcommits
    have hfree := clientRequestTaken_cancelledRow (reading.utcNow 0) hunique hfind hrequest
    rw [Option.filter_some, if_pos (by simp [hstatus, hlease, hflag])]
    dsimp only
    rw [hfree]
    exact ⟨_, _, rfl, classified_committed ⟨hstatus, hlease⟩ hflag⟩
  · have hunrequested (hguard : AttemptGuard row token reading.nowMs) :
        row.cancelRequested = false := by
      simpa [hguard] using hcommits
    obtain ⟨outcome, houtcome, hclassified⟩ :=
      classified_refused (.cancelled run reason) hleased hrow fun hguard ↦ by
        simp [CommitCall.Allowed, CommitCall.Conflicts, CommitCall.BlockedByCancel,
          CommitCall.Unrequested, hunrequested hguard]
    rw [Option.filter_some, if_neg ?_]
    · exact ⟨outcome, db, outcomeOf_refuseCommit houtcome, hclassified⟩
    · -- A QUEUED Run holds no lease, so the wider status test accepts no more Runs.
      intro hpasses
      simp only [Bool.and_eq_true] at hpasses
      obtain ⟨⟨-, hflag⟩, hlease⟩ := hpasses
      have htoken : row.leaseToken ≠ none := by
        rw [((holdsLease_iff row token reading.nowMs).mp hlease).1]
        simp
      exact hcommits ⟨⟨hleased htoken, hlease⟩, hflag⟩

/-- Under the guard and without a cancel request, the conflict terminalization applies. -/
theorem failCheckpointConflict_of_guard {runId tenantId : String} (phase : String)
    (expected : Option Nat) (observed : Nat)
    (hrow : findRunForTenant db runId tenantId = some row)
    (hguard : AttemptGuard row token reading.nowMs) (hflag : row.cancelRequested = false) :
    ∃ failed, failCheckpointConflict db reading runId tenantId token expected observed phase =
      .ok failed := by
  obtain ⟨hattempt, htenant⟩ := currentAttempt_of_guard hrow hguard
  unfold failCheckpointConflict
  rw [hattempt, Option.filter_some, if_pos (by simp [htenant, hflag])]
  exact ⟨_, rfl⟩

theorem not_running_or_cancelled_or_lost :
    ¬ (row.status ≠ .running ∨ row.cancelRequested = true ∨
        ¬ row.holdsLease token reading.nowMs = true) ↔
      AttemptGuard row token reading.nowMs ∧ row.cancelRequested = false := by
  simp only [AttemptGuard, not_or, not_not, Bool.not_eq_true]
  constructor
  · rintro ⟨hstatus, hflag, hlease⟩
    exact ⟨⟨hstatus, by simpa using hlease⟩, hflag⟩
  · rintro ⟨⟨hstatus, hlease⟩, hflag⟩
    exact ⟨hstatus, hflag, by simpa using hlease⟩

theorem checkpointConflict_classified {run : RunRecord} {phase : String}
    (hleased : row.leaseToken ≠ none → row.status = .running)
    (hrow : findRunForTenant db run.runId run.tenantId = some row) :
    ∃ outcome after, CommitCall.outcomeOf (commitCheckpointConflict db reading run token phase) =
        .ok (outcome, after) ∧
      Classified db reading token row (.checkpointConflict run phase) outcome after := by
  unfold commitCheckpointConflict
  rw [hrow]
  dsimp only
  by_cases hrefused : row.status ≠ .running ∨ row.cancelRequested = true ∨
      ¬ row.holdsLease token reading.nowMs = true
  · rw [if_pos hrefused]
    have hflag (hguard : AttemptGuard row token reading.nowMs) : row.cancelRequested = true := by
      by_contra hunset
      exact not_running_or_cancelled_or_lost.mpr ⟨hguard, Bool.eq_false_iff.mpr hunset⟩ hrefused
    obtain ⟨outcome, houtcome, hclassified⟩ :=
      classified_refused (.checkpointConflict run phase) hleased hrow fun hguard ↦ by
        simp [CommitCall.Allowed, CommitCall.Conflicts, CommitCall.BlockedByCancel,
          CommitCall.Unrequested, hflag hguard]
    exact ⟨outcome, db, outcomeOf_refuseCommit houtcome, hclassified⟩
  · rw [if_neg hrefused]
    obtain ⟨hguard, hflag⟩ := not_running_or_cancelled_or_lost.mp hrefused
    obtain ⟨failed, hfailed⟩ := failCheckpointConflict_of_guard phase row.checkpointBaseRevision
      (threadRevision db run.tenantId row.threadId) hrow hguard hflag
    rw [hfailed]
    exact ⟨_, failed, rfl, classified_conflict hguard hflag⟩

theorem assertThreadSchemaAvailable_of_available (havailable : ThreadAvailable db row) :
    assertThreadSchemaAvailable db row.tenantId row.threadId row.domainId row.schemaVersion =
      .ok () := by
  unfold assertThreadSchemaAvailable
  cases hfind : db.threadStates.find (row.tenantId, row.threadId) with
  | none => rfl
  | some existing =>
    have hbinding := havailable existing hfind
    exact if_neg (by simp [hbinding])

/-- A thread bound to another domain or schema version refuses the checkpoint. -/
theorem assertThreadSchemaAvailable_of_bound (hbound : ¬ ThreadAvailable db row) :
    ∃ error, assertThreadSchemaAvailable db row.tenantId row.threadId row.domainId
      row.schemaVersion = .error (.valueError error) := by
  simp only [ThreadAvailable, not_forall] at hbound
  obtain ⟨existing, hfind, hbinding⟩ := hbound
  unfold assertThreadSchemaAvailable
  rw [hfind]
  exact ⟨_, if_pos (not_and_or.mp hbinding)⟩

/-- The compare-and-set of a checkpoint on the revision of its thread applies. -/
theorem saveCheckpoint_of_revision (tenantId threadId : String) (updated : Database)
    (checkpoint : ThreadStateRow) (hthreads : updated.threadStates = db.threadStates) :
    ∃ saved, saveCheckpoint updated tenantId threadId (threadRevision db tenantId threadId)
      checkpoint = .ok saved := by
  unfold saveCheckpoint threadRevision
  rw [hthreads]
  cases db.threadStates.find (tenantId, threadId) with
  | none => exact ⟨_, rfl⟩
  | some existing => exact ⟨_, if_pos rfl⟩

section Completed

variable {run : RunRecord} {state : RuntimeState}

theorem completed_refused (hleased : row.leaseToken ≠ none → row.status = .running)
    (hrow : findRunForTenant db run.runId run.tenantId = some row)
    (hrefused : row.status ≠ .running ∨ row.cancelRequested = true ∨
      ¬ row.holdsLease token reading.nowMs = true) :
    ∃ outcome after, CommitCall.outcomeOf (commitCompletedRun db reading run token) =
        .ok (outcome, after) ∧
      Classified db reading token row (.completed run) outcome after := by
  unfold commitCompletedRun
  rw [hrow]
  dsimp only
  rw [if_pos hrefused]
  have hflag (hguard : AttemptGuard row token reading.nowMs) : row.cancelRequested = true := by
    by_contra hunset
    exact not_running_or_cancelled_or_lost.mpr ⟨hguard, Bool.eq_false_iff.mpr hunset⟩ hrefused
  obtain ⟨outcome, houtcome, hclassified⟩ :=
    classified_refused (.completed run) hleased hrow fun hguard ↦ by
      simp [CommitCall.Allowed, CommitCall.Conflicts, CommitCall.BlockedByCancel,
        CommitCall.Unrequested, hflag hguard]
  exact ⟨outcome, db, outcomeOf_refuseCommit houtcome, hclassified⟩

theorem completed_conflict (hrow : findRunForTenant db run.runId run.tenantId = some row)
    (hguard : AttemptGuard row token reading.nowMs) (hflag : row.cancelRequested = false)
    (hstate : run.state = some state) (hdrift : ¬ BaseCurrent db row) :
    ∃ outcome after, CommitCall.outcomeOf (commitCompletedRun db reading run token) =
        .ok (outcome, after) ∧
      Classified db reading token row (.completed run) outcome after := by
  have htenant := ((findRunForTenant_eq_some_iff db run.runId run.tenantId row).mp hrow).2
  have hdiffers : row.checkpointBaseRevision ≠
      some (threadRevision db run.tenantId row.threadId) := by
    rw [← htenant]
    exact hdrift
  obtain ⟨failed, hfailed⟩ := failCheckpointConflict_of_guard "completion"
    row.checkpointBaseRevision (threadRevision db run.tenantId row.threadId) hrow hguard hflag
  unfold commitCompletedRun
  rw [hrow]
  dsimp only
  rw [if_neg (not_running_or_cancelled_or_lost.mpr ⟨hguard, hflag⟩), hstate]
  dsimp only
  rw [if_pos hdiffers, hfailed]
  exact ⟨_, failed, rfl, classified_conflict hguard ⟨hflag, hdrift⟩⟩

/-- Under the guard, from the current revision and with a state of the Run's identity, only the
binding of the thread decides. -/
theorem commitCompletedRun_of_identity
    (hrow : findRunForTenant db run.runId run.tenantId = some row)
    (hguard : AttemptGuard row token reading.nowMs) (hflag : row.cancelRequested = false)
    (hrecord : CommitCall.RecordOf row (.completed run)) (hbase : BaseCurrent db row) :
    (ThreadAvailable db row → ∃ record after,
      commitCompletedRun db reading run token = .ok ((.committed, record), after)) ∧
    (¬ ThreadAvailable db row → ∃ error, commitCompletedRun db reading run token =
      .error (.valueError error)) := by
  obtain ⟨hidentity, state, hstate, hstateIdentity⟩ := hrecord
  have htenant := ((findRunForTenant_eq_some_iff db run.runId run.tenantId row).mp hrow).2
  have hsame : ¬ row.checkpointBaseRevision ≠
      some (threadRevision db run.tenantId row.threadId) := by
    rw [← htenant]
    exact not_not.mpr hbase
  unfold commitCompletedRun
  rw [hrow]
  dsimp only
  rw [if_neg (not_running_or_cancelled_or_lost.mpr ⟨hguard, hflag⟩), hstate]
  dsimp only
  rw [if_neg hsame, if_neg (by simp only [hidentity, hstateIdentity]; simp), ← htenant]
  constructor
  · intro havailable
    rw [assertThreadSchemaAvailable_of_available havailable]
    dsimp only
    obtain ⟨saved, hsaved⟩ := saveCheckpoint_of_revision row.tenantId row.threadId
      (updateRun db run.runId fun current ↦ completedRow current run state (reading.utcNow 0))
      { domainId := row.domainId
        schemaVersion := row.schemaVersion
        stateJson := (projectThreadCheckpointState state).toStateJson
        updatedAt := reading.utcNow 0
        revision := 0 } (rfl : _ = db.threadStates)
    rw [hsaved]
    exact ⟨_, _, rfl⟩
  · intro hbound
    obtain ⟨error, herror⟩ := assertThreadSchemaAvailable_of_bound hbound
    rw [herror]
    exact ⟨error, rfl⟩

end Completed

end Operations

/-! ### All commits, in every reachable state -/

/-- A commit raises only for a completion whose thread is bound elsewhere; every other call
returns an outcome that names its true reason. -/
theorem perform_classified {db : Database} (reading : Reading) (token : String) {row : RunRow}
    {call : CommitCall} (hunique : RequestsUnique db)
    (hleased : row.leaseToken ≠ none → row.status = .running)
    (hrow : findRunForTenant db call.runId call.tenantId = some row)
    (hrecord : call.RecordOf row) :
    (AttemptGuard row token reading.nowMs ∧ call.BoundElsewhere db row ∧
      ∃ error, call.perform db reading token = .error (.valueError error)) ∨
    (¬ (AttemptGuard row token reading.nowMs ∧ call.BoundElsewhere db row) ∧
      ∃ outcome after, call.perform db reading token = .ok (outcome, after) ∧
        Classified db reading token row call outcome after) := by
  cases call with
  | reconciliationPending runId tenantId code error =>
    exact .inr ⟨fun hbound ↦ hbound.2, reconciliationPending_classified hleased hrow⟩
  | failed run code error traceback allow =>
    exact .inr ⟨fun hbound ↦ hbound.2, failed_classified hleased hrow⟩
  | cancelled run reason =>
    exact .inr ⟨fun hbound ↦ hbound.2, cancelled_classified hunique hleased hrow hrecord⟩
  | checkpointConflict run phase =>
    exact .inr ⟨fun hbound ↦ hbound.2, checkpointConflict_classified hleased hrow⟩
  | completed run =>
    by_cases hrefused : row.status ≠ .running ∨ row.cancelRequested = true ∨
        ¬ row.holdsLease token reading.nowMs = true
    · refine .inr ⟨fun hbound ↦ ?_, completed_refused hleased hrow hrefused⟩
      exact not_running_or_cancelled_or_lost.mpr ⟨hbound.1, hbound.2.1⟩ hrefused
    · obtain ⟨hguard, hflag⟩ := not_running_or_cancelled_or_lost.mp hrefused
      by_cases hbase : BaseCurrent db row
      · obtain ⟨hcommits, hraises⟩ :=
          commitCompletedRun_of_identity hrow hguard hflag hrecord hbase
        by_cases havailable : ThreadAvailable db row
        · obtain ⟨record, after, hcommitted⟩ := hcommits havailable
          refine .inr ⟨fun hbound ↦ hbound.2.2.2 havailable, .committed, after, ?_,
            classified_committed hguard ⟨hflag, hbase, havailable⟩⟩
          exact congrArg CommitCall.outcomeOf hcommitted
        · obtain ⟨error, herror⟩ := hraises havailable
          refine .inl ⟨hguard, ⟨hflag, hbase, havailable⟩, error, ?_⟩
          exact congrArg CommitCall.outcomeOf herror
      · obtain ⟨-, state, hstate, -⟩ := hrecord
        exact .inr ⟨fun hbound ↦ hbase hbound.2.2.1,
          completed_conflict hrow hguard hflag hstate hbase⟩

theorem outcomeOf_eq_error {reply : Except StoreError ((RunCommitOutcome × RunRecord) × Database)}
    {error : StoreError} (hraised : CommitCall.outcomeOf reply = .error error) :
    reply = .error error := by
  cases reply with
  | error other => exact congrArg Except.error (Except.error.inj hraised)
  | ok result => cases hraised

/-- A commit that raises is rolled back. -/
theorem apply_of_raised (hasher : Hasher) {db : Database} {reading : Reading} {token : String}
    {call : CommitCall} {error : StoreError}
    (hraised : call.perform db reading token = .error error) :
    Request.apply hasher db ⟨reading, .run (call.request token)⟩ = db := by
  have hcall : (call.request token).perform hasher db reading = .error error := by
    cases call with
    | reconciliationPending => exact hraised
    | failed | cancelled | completed | checkpointConflict => exact outcomeOf_eq_error hraised
  have hperform : (Call.run (call.request token)).perform hasher db reading = .error error := hcall
  unfold Request.apply
  rw [hperform]

/-- In every reachable state, for every Run of a tenant and every commit with a record of that
Run: the commit raises exactly when it is a completion whose thread is bound to another domain or
schema version, every outcome it returns names its true reason, only a commit or a checkpoint
conflict changes a table, and a call that raises changes none. -/
theorem commit_outcome_iff (hasher : Hasher) {db : Database}
    (hreachable : (storeMachine hasher).Reachable db) (reading : Reading) (token : String)
    (call : CommitCall) :
    (∀ row, findRunForTenant db call.runId call.tenantId = some row → call.RecordOf row →
      ((∃ error, call.perform db reading token = .error (.valueError error)) ↔
        AttemptGuard row token reading.nowMs ∧ call.BoundElsewhere db row) ∧
      (¬ (AttemptGuard row token reading.nowMs ∧ call.BoundElsewhere db row) →
        ∃ outcome after, call.perform db reading token = .ok (outcome, after) ∧
          Classified db reading token row call outcome after)) ∧
    (∀ error, call.perform db reading token = .error error →
      Request.apply hasher db ⟨reading, .run (call.request token)⟩ = db) := by
  obtain ⟨history, hhistory⟩ := hreachable
  have hunique : RequestsUnique db := hhistory ▸ requestsUnique_run hasher history
  have hleased : LeasedRunning db := hhistory ▸ leasedRunning_run hasher history
  constructor
  · intro row hrow hrecord
    have hfind := ((findRunForTenant_eq_some_iff _ call.runId call.tenantId row).mp hrow).1
    rcases perform_classified reading token hunique (hleased call.runId row hfind) hrow
        hrecord with ⟨hguard, hbound, hraised⟩ | ⟨hnot, outcome, after, hok, hclassified⟩
    · exact ⟨⟨fun _ ↦ ⟨hguard, hbound⟩, fun _ ↦ hraised⟩, fun hnot ↦ absurd ⟨hguard, hbound⟩ hnot⟩
    · refine ⟨⟨?_, fun hbound ↦ absurd hbound hnot⟩, fun _ ↦ ⟨outcome, after, hok, hclassified⟩⟩
      rintro ⟨error, herror⟩
      rw [hok] at herror
      cases herror
  · intro error hraised
    exact apply_of_raised hasher hraised

/-- One submitted and claimed Run. -/
def claimedHistory : List Request :=
  [submitRequest (sampleRun "run_1" "t0" none),
    ⟨sampleReading 0 "a", .run (.claimNextRun "worker" 30 none)⟩]

theorem commit_outcome_first_completion :
    ∃ row, findRunForTenant ((storeMachine sampleHasher).run Database.empty claimedHistory)
        "run_1" "acme" = some row ∧ AttemptGuard row "lease_a" 1 ∧
      ∃ outcome after, CommitCall.perform
          ((storeMachine sampleHasher).run Database.empty claimedHistory) (sampleReading 1 "t1")
          "lease_a" (.completed (sampleRun "run_1" "t0" (some sampleState))) =
            .ok (outcome, after) ∧
        Classified ((storeMachine sampleHasher).run Database.empty claimedHistory)
          (sampleReading 1 "t1") "lease_a" row
          (.completed (sampleRun "run_1" "t0" (some sampleState))) outcome after := by
  refine ⟨_, rfl, ⟨rfl, by decide +kernel⟩, ?_⟩
  refine ((commit_outcome_iff sampleHasher ⟨claimedHistory, rfl⟩ (sampleReading 1 "t1") "lease_a"
    (.completed (sampleRun "run_1" "t0" (some sampleState)))).1 _ rfl ⟨rfl, _, rfl, rfl⟩).2 ?_
  rintro ⟨-, -, -, hbound⟩
  refine hbound fun existing hfind ↦ ?_
  cases hfind

/-! ### A thread bound by an earlier Run -/

/-- A Run of the thread `trip` whose domain has a second schema version. -/
def reboundRun (state : Option RuntimeState) : RunRecord :=
  { sampleRun "run_2" "t1" state with schemaVersion := "2" }

/-- Two Runs of one thread are queued under two schema versions, the first completes and the
second is claimed. -/
def reboundHistory : List Request :=
  [submitRequest (sampleRun "run_1" "t0" none), submitRequest (reboundRun none),
    ⟨sampleReading 0 "a", .run (.claimNextRun "worker" 30 none)⟩,
    ⟨sampleReading 1 "t2", .run (.commitCompletedRun
      (sampleRun "run_1" "t0" (some sampleState)) "lease_a")⟩,
    ⟨sampleReading 2 "b", .run (.claimNextRun "worker" 30 none)⟩]

/-- The completion of the second Run, with a state of its own identity. -/
def reboundCompletion : CommitCall :=
  .completed (reboundRun (some { sampleState with schemaVersion := "2" }))

/-- A completion can raise under the guard: the lease is held, no cancel is requested, the base is
the revision of the thread and the state has the persisted identity, and the call raises. -/
theorem completed_under_guard_raises :
    ∃ row, findRunForTenant ((storeMachine sampleHasher).run Database.empty reboundHistory)
        "run_2" "acme" = some row ∧
      AttemptGuard row "lease_b" 3 ∧ row.cancelRequested = false ∧
      BaseCurrent ((storeMachine sampleHasher).run Database.empty reboundHistory) row ∧
      reboundCompletion.RecordOf row ∧
      ∃ error, reboundCompletion.perform
        ((storeMachine sampleHasher).run Database.empty reboundHistory) (sampleReading 3 "t3")
        "lease_b" = .error error := by
  refine ⟨_, rfl, ⟨rfl, ?_⟩, rfl, ?_, ?_, ?_⟩
  · decide +kernel
  · show _ = _
    decide +kernel
  · exact ⟨rfl, _, rfl, rfl⟩
  · exact ⟨_, rfl⟩

end AgentRuntime.Store
