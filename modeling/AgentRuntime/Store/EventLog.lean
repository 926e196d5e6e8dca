import AgentRuntime.Store.ThreadSerialization

/-!
# The event log determines the Run row

`LogAgrees row types` says that a Run's row and the types of its events tell the same story: the
attempt is the number of `run.started` events, the cancel flag is the presence of the one
`run.cancel_requested` event, and the status is read off the started and terminal events. Each kind
of rewrite keeps it (`logAgrees_rowChange`), provided attempt events stay clear of the lifecycle
types and a cancelling commit writes back the attempt of its own claim. What callers hold is tracked
by a `Session`: the tokens issued so far and the records handed out by claims and reads, each with
the tokens that existed when it was read. `event_log_determines_run` is the result for every
history of well-behaved callers.
-/

set_option autoImplicit false
set_option relaxedAutoImplicit false

namespace AgentRuntime.Store

open Library

/-! ### Events of one Run -/

/-- The events of a Run, in append order. -/
def eventsOf (events : List EventRow) (runId : String) : List EventRow :=
  events.filter fun event ↦ event.runId == runId

/-- The types of a Run's events, in append order. -/
def typesOf (events : List EventRow) (runId : String) : List String :=
  (eventsOf events runId).map EventRow.eventType

/-- The events of a Run are numbered from 1 in append order. -/
def Sequenced (events : List EventRow) (runId : String) : Prop :=
  (eventsOf events runId).map EventRow.sequence = List.range' 1 (eventsOf events runId).length

theorem foldr_max_append (values : List Nat) (last : Nat) :
    (values ++ [last]).foldr max 0 = max (values.foldr max 0) last := by
  induction values with
  | nil => simp
  | cons value rest ih => rw [List.cons_append, List.foldr_cons, ih, List.foldr_cons, max_assoc]

theorem foldr_max_range' (n : Nat) : (List.range' 1 n).foldr max 0 = n := by
  induction n with
  | zero => rfl
  | succ n ih =>
    rw [List.range'_1_concat, foldr_max_append, ih]
    omega

theorem nextSequence_of_sequenced {events : List EventRow} {runId : String}
    (hsequenced : Sequenced events runId) :
    nextSequence events runId = (eventsOf events runId).length + 1 := by
  unfold Sequenced at hsequenced
  unfold nextSequence
  rw [show (events.filter fun event ↦ event.runId == runId) = eventsOf events runId from rfl,
    hsequenced, foldr_max_range']

/-- One appended event of a Run. -/
theorem eventsOf_append (events : List EventRow) (event : EventRow) (runId : String) :
    eventsOf (events ++ [event]) runId =
      eventsOf events runId ++ if event.runId = runId then [event] else [] := by
  unfold eventsOf
  rw [List.filter_append, List.filter_cons, List.filter_nil]
  simp only [beq_iff_eq]

theorem sequenced_append {events : List EventRow} {runId : String}
    (hsequenced : Sequenced events runId) (other eventType : String) (payload : Payload)
    (createdAt : String) :
    Sequenced (events ++ [newEvent events other eventType payload createdAt]) runId := by
  unfold Sequenced
  rw [eventsOf_append]
  by_cases heq : other = runId
  · subst heq
    have hown : (newEvent events other eventType payload createdAt).runId = other := rfl
    rw [if_pos hown, List.map_append, List.length_append, hsequenced, List.length_singleton,
      List.range'_1_concat]
    simp [newEvent, nextSequence_of_sequenced hsequenced, Nat.add_comm]
  · rw [if_neg (by simpa [newEvent] using heq), List.append_nil]
    exact hsequenced

theorem sequenced_appendNotes {events : List EventRow} {runId : String}
    (hsequenced : Sequenced events runId) (other : String) (notes : List Note) :
    Sequenced (appendNotes events other notes) runId := by
  unfold appendNotes
  induction notes generalizing events with
  | nil => exact hsequenced
  | cons note rest ih => exact ih (sequenced_append hsequenced other _ _ _)

theorem typesOf_appendNotes (events : List EventRow) (other : String) (notes : List Note)
    (runId : String) :
    typesOf (appendNotes events other notes) runId =
      typesOf events runId ++ if other = runId then notes.map Note.eventType else [] := by
  unfold appendNotes
  induction notes generalizing events with
  | nil => simp
  | cons note rest ih =>
    rw [List.foldl_cons, ih]
    unfold typesOf
    rw [eventsOf_append]
    by_cases heq : other = runId <;> simp [newEvent, heq]

/-! ### Agreement of a row with its log -/

/-- The events that end a Run. -/
def terminalEventTypes : List String := ["run.completed", "run.failed", "run.cancelled"]

/-- The events that describe the life of a Run. -/
def lifecycleEventTypes : List String :=
  ["run.queued", "run.recovered", "run.started", "run.cancel_requested"] ++ terminalEventTypes

theorem controlPlane_not_lifecycle :
    ∀ type ∈ controlPlaneEventTypes, type ∉ lifecycleEventTypes := by
  decide

/-- The one terminal event of a log, with nothing but control-plane events after it. -/
def EndsWith (types closing : List String) (terminal : String) : Prop :=
  ∃ before after, types = before ++ closing ++ [terminal] ++ after ∧
    (∀ type ∈ before, type ∉ terminalEventTypes) ∧ ∀ type ∈ after, type ∈ controlPlaneEventTypes

/-- The status told by a log. -/
def StatusAgrees (row : RunRow) (types : List String) : Prop :=
  match row.status with
  | .queued => types.count "run.started" = 0 ∧ ∀ type ∈ types, type ∉ terminalEventTypes
  | .running => 0 < types.count "run.started" ∧ ∀ type ∈ types, type ∉ terminalEventTypes
  | .completed => EndsWith types ["checkpoint.saved"] "run.completed" ∧
    row.leaseCleared = true ∧ row.cancelRequested = false
  | .failed => EndsWith types [] "run.failed" ∧ row.leaseCleared = true
  | .cancelled => EndsWith types [] "run.cancelled" ∧ row.leaseCleared = true ∧
    row.cancelRequested = true

/-- A Run's row and its log tell the same story. -/
structure LogAgrees (row : RunRow) (types : List String) : Prop where
  attempt : row.attempt = types.count "run.started"
  cancel : types.count "run.cancel_requested" = if row.cancelRequested then 1 else 0
  status : StatusAgrees row types

theorem endsWith_append {types closing : List String} {terminal : String}
    (hends : EndsWith types closing terminal) {more : List String}
    (hmore : ∀ type ∈ more, type ∈ controlPlaneEventTypes) :
    EndsWith (types ++ more) closing terminal := by
  obtain ⟨before, after, rfl, hbefore, hafter⟩ := hends
  refine ⟨before, after ++ more, by simp only [List.append_assoc], hbefore, ?_⟩
  intro type hmem
  rcases List.mem_append.mp hmem with hold | hnew
  · exact hafter type hold
  · exact hmore type hnew

/-- A log without terminal event that gets one ends with it. -/
theorem endsWith_terminal {types : List String}
    (hopen : ∀ type ∈ types, type ∉ terminalEventTypes) (closing : List String)
    (terminal : String) : EndsWith (types ++ (closing ++ [terminal])) closing terminal :=
  ⟨types, [], by simp only [List.append_assoc, List.append_nil], hopen, nofun⟩

theorem statusAgrees_open {row : RunRow} {types : List String} (hagrees : StatusAgrees row types)
    (hactive : row.status = .queued ∨ row.status = .running) :
    ∀ type ∈ types, type ∉ terminalEventTypes := by
  unfold StatusAgrees at hagrees
  rcases hactive with hactive | hactive
  all_goals
    rw [hactive] at hagrees
    exact hagrees.2

/-- A row that keeps its status, lease and flag still agrees after control-plane events, and an
open one after any events that neither start nor end it. -/
theorem statusAgrees_quiet {row rewritten : RunRow} {types : List String} (more : List String)
    (hagrees : StatusAgrees row types) (hstatus : rewritten.status = row.status)
    (hopen : row.status = .running ∨ row.status = .queued)
    (hstarted : more.count "run.started" = 0)
    (hmore : ∀ type ∈ more, type ∉ terminalEventTypes) :
    StatusAgrees rewritten (types ++ more) := by
  unfold StatusAgrees at hagrees ⊢
  rw [hstatus]
  have hall : ∀ rest : List String, (∀ type ∈ rest, type ∉ terminalEventTypes) →
      ∀ type ∈ rest ++ more, type ∉ terminalEventTypes := by
    intro rest hrest type hmem
    rcases List.mem_append.mp hmem with hold | hnew
    · exact hrest type hold
    · exact hmore type hnew
  rcases hopen with hopen | hopen
  all_goals
    rw [hopen] at hagrees ⊢
    simp only [List.count_append, hstarted, Nat.add_zero]
    exact ⟨hagrees.1, hall types hagrees.2⟩

/-- The same for a whole row: events that are no lifecycle events change nothing in the story. -/
theorem logAgrees_quiet {row rewritten : RunRow} {types : List String} (more : List String)
    (hagrees : LogAgrees row types) (hstatus : rewritten.status = row.status)
    (hattempt : rewritten.attempt = row.attempt)
    (hflag : rewritten.cancelRequested = row.cancelRequested)
    (hopen : row.status = .running ∨ row.status = .queued)
    (hmore : ∀ type ∈ more, type ∉ lifecycleEventTypes) :
    LogAgrees rewritten (types ++ more) := by
  have hcount : ∀ type ∈ lifecycleEventTypes, more.count type = 0 := fun type hlife ↦
    List.count_eq_zero.mpr fun hmem ↦ hmore type hmem hlife
  have hstarted : more.count "run.started" = 0 := hcount _ (by decide)
  have hrequested : more.count "run.cancel_requested" = 0 := hcount _ (by decide)
  refine ⟨?_, ?_, ?_⟩
  · rw [hattempt, hagrees.attempt, List.count_append, hstarted, Nat.add_zero]
  · rw [hflag, List.count_append, hrequested, Nat.add_zero]
    exact hagrees.cancel
  · refine statusAgrees_quiet more hagrees.status hstatus hopen hstarted
      fun type hmem hterminal ↦ ?_
    exact hmore type hmem (List.mem_append_right _ hterminal)

/-- A row that becomes terminal with its closing events agrees with its log. -/
theorem logAgrees_terminal {row rewritten : RunRow} {types : List String} (closing : List String)
    (terminal : String) (hagrees : LogAgrees row types)
    (hactive : row.status = .queued ∨ row.status = .running)
    (hattempt : rewritten.attempt = row.attempt)
    (hflag : rewritten.cancelRequested = row.cancelRequested)
    (hquiet : (closing ++ [terminal]).count "run.started" = 0 ∧
      (closing ++ [terminal]).count "run.cancel_requested" = 0)
    (hstatus : EndsWith (types ++ (closing ++ [terminal])) closing terminal →
      StatusAgrees rewritten (types ++ (closing ++ [terminal]))) :
    LogAgrees rewritten (types ++ (closing ++ [terminal])) := by
  refine ⟨?_, ?_, ?_⟩
  · rw [hattempt, hagrees.attempt, List.count_append, hquiet.1, Nat.add_zero]
  · rw [hflag, List.count_append, hquiet.2, Nat.add_zero]
    exact hagrees.cancel
  · exact hstatus (endsWith_terminal (statusAgrees_open hagrees.status hactive) closing terminal)

/-- A failed row agrees with a log that ends in `run.failed`. -/
theorem statusAgrees_failedRow {row : RunRow} {types closing : List String}
    {code error completedAt : String}
    (hends : EndsWith (types ++ (closing ++ ["run.failed"])) closing "run.failed")
    (hclosing : ∀ type ∈ closing, type ∉ terminalEventTypes) :
    StatusAgrees (failedRow row code error completedAt)
      (types ++ (closing ++ ["run.failed"])) := by
  obtain ⟨before, after, htypes, hbefore, hafter⟩ := hends
  refine ⟨⟨before ++ closing, after, by simpa using htypes, ?_, hafter⟩, rfl⟩
  intro type hmem
  rcases List.mem_append.mp hmem with hold | hnew
  · exact hbefore type hold
  · exact hclosing type hnew

/-- A claim starts one more attempt. -/
theorem logAgrees_claimedRow {db : Database} {row : RunRow} {types recovered : List String}
    {ownerId token timestamp : String} {nowMs expiresAt : Int} {code : Option String}
    (hagrees : LogAgrees row types) (hactive : row.status = .queued ∨ row.status = .running)
    (hrecovered : recovered = [] ∨ recovered = ["run.recovered"]) :
    LogAgrees (claimedRow db row ownerId token timestamp nowMs expiresAt code)
      (types ++ (recovered ++ ["run.started"])) := by
  have hopen := statusAgrees_open hagrees.status hactive
  have hcount : (recovered ++ ["run.started"]).count "run.started" = 1 := by
    rcases hrecovered with rfl | rfl <;> decide
  have hrequested : (recovered ++ ["run.started"]).count "run.cancel_requested" = 0 := by
    rcases hrecovered with rfl | rfl <;> decide
  have hnew : ∀ type ∈ recovered ++ ["run.started"], type ∉ terminalEventTypes := by
    rcases hrecovered with rfl | rfl <;> decide
  refine ⟨?_, ?_, ?_, ?_⟩
  · rw [List.count_append, hcount, Int.natCast_add, ← hagrees.attempt]
    rfl
  · rw [List.count_append, hrequested, Nat.add_zero]
    exact hagrees.cancel
  · rw [List.count_append, hcount]
    omega
  · intro type hmem
    rcases List.mem_append.mp hmem with hold | hlast
    · exact hopen type hold
    · exact hnew type hlast

/-- Every kind of rewrite keeps the agreement, for attempt events outside the lifecycle and for
cancelling commits that write back the row's own attempt. -/
theorem logAgrees_rowChange {db : Database} {reading : Reading} {call : RunCall} {runId : String}
    {row rewritten : RunRow} {notes : List Note} {types : List String}
    (hagrees : LogAgrees row types)
    (hchange : RowChange db reading call runId row rewritten notes)
    (hquiet : ∀ token eventType payload,
      call = .appendAttemptEvent runId token eventType payload →
        eventType ∉ lifecycleEventTypes)
    (hattempt : ∀ run reason token, call = .commitCancelledRun run reason token →
      row.leaseToken = some token → run.attempt = row.attempt) :
    LogAgrees rewritten (types ++ notes.map Note.eventType) := by
  cases hchange with
  | claimQueued _ _ _ _ hcandidate =>
    exact logAgrees_claimedRow hagrees (.inl ((queuedCandidate_iff db row).mp hcandidate).1)
      (.inl rfl)
  | takeover _ _ _ _ _ hcandidate =>
    simp only [expiredCandidate, Bool.and_eq_true, beq_iff_eq] at hcandidate
    exact logAgrees_claimedRow hagrees (.inr hcandidate.1.1.1.1) (.inr rfl)
  | renew _ _ _ hheld | marker _ _ _ _ hheld =>
    exact logAgrees_quiet [] hagrees rfl rfl rfl (.inl hheld.1) (by simp)
  | expire _ _ hrunning => exact logAgrees_quiet [] hagrees rfl rfl rfl (.inl hrunning) (by simp)
  | attemptEvent token eventType payload hcall hheld =>
    refine logAgrees_quiet [eventType] hagrees rfl rfl rfl (.inl hheld.1) fun type hmem ↦ ?_
    rw [List.mem_singleton] at hmem
    rw [hmem]
    exact hquiet (some token) eventType payload hcall
  | controlEvent eventType payload hcall htype =>
    have hcontrol : ∀ type ∈ [eventType], type ∈ controlPlaneEventTypes := fun type hmem ↦
      (List.mem_singleton.mp hmem) ▸ htype
    have hplain : ∀ type ∈ [eventType], type ∉ lifecycleEventTypes := fun type hmem ↦
      controlPlane_not_lifecycle type (hcontrol type hmem)
    by_cases hopen : row.status = .running ∨ row.status = .queued
    · exact logAgrees_quiet [eventType] hagrees rfl rfl rfl hopen hplain
    · -- A terminal Run takes control-plane events after its terminal event.
      have hcount : ∀ type ∈ lifecycleEventTypes, [eventType].count type = 0 := fun type hlife ↦
        List.count_eq_zero.mpr fun hmem ↦ hplain type hmem hlife
      refine ⟨?_, ?_, ?_⟩
      · rw [hagrees.attempt, List.count_append]
        simp only [List.map_cons, List.map_nil, hcount "run.started" (by decide), Nat.add_zero]
      · rw [List.count_append]
        simp only [List.map_cons, List.map_nil, hcount "run.cancel_requested" (by decide),
          Nat.add_zero]
        exact hagrees.cancel
      · have hstatus := hagrees.status
        unfold StatusAgrees at hstatus ⊢
        cases hcase : row.status with
        | queued => exact absurd (.inr hcase) hopen
        | running => exact absurd (.inl hcase) hopen
        | completed | failed | cancelled =>
          rw [hcase] at hstatus
          exact ⟨endsWith_append hstatus.1 hcontrol, hstatus.2⟩
  | requestCancel hcall hactive hflag =>
    refine ⟨?_, ?_, ?_⟩
    · rw [hagrees.attempt, List.count_append]
      rfl
    · rw [List.count_append, hagrees.cancel, hflag]
      rfl
    · exact statusAgrees_quiet ["run.cancel_requested"] hagrees.status rfl hactive.symm (by decide)
        (by decide)
  | cancelQueued hcall hqueued hflag =>
    exact logAgrees_terminal [] "run.cancelled" hagrees (.inl hqueued) rfl rfl (by decide)
      fun hends ↦ ⟨hends, rfl, hflag⟩
  | fail run token code error traceback allow hcall hrun hheld =>
    exact logAgrees_terminal [] "run.failed" hagrees (.inr hheld.1) rfl rfl (by decide)
      fun hends ↦ statusAgrees_failedRow hends (by simp)
  | conflict run token phase hcall hrun hheld hflag =>
    exact logAgrees_terminal ["checkpoint.conflict"] "run.failed" hagrees (.inr hheld.1) rfl rfl
      (by decide) fun hends ↦ statusAgrees_failedRow hends (by decide)
  | cancel run token reason hcall hrun hactive hflag hlease =>
    have htoken := ((holdsLease_iff row token reading.nowMs).mp hlease).1
    exact logAgrees_terminal [] "run.cancelled" hagrees hactive
      (hattempt run reason token hcall htoken) hflag.symm (by decide)
      fun hends ↦ ⟨hends, rfl, rfl⟩
  | quarantine run token phase hcall hrun hheld hdrift =>
    exact logAgrees_quiet ["checkpoint.conflict"] hagrees rfl rfl rfl (.inl hheld.1) (by decide)
  | resolve target resolution planId subject credential audit failure hcall hquarantined =>
    simp only [RunRow.quarantined, Bool.and_eq_true, beq_iff_eq] at hquarantined
    exact logAgrees_terminal ["quarantine.resolution_applied"] "run.failed" hagrees
      (.inr hquarantined.1.1) rfl rfl (by decide)
      fun hends ↦ statusAgrees_failedRow hends (by decide)

/-! ### Callers and what they hold -/

/-- A record a caller got from the store, with the tokens that had been issued by then. -/
structure Handout where
  record : RunRecord
  issued : List String

/-- The stores together with what their callers hold. -/
structure Session where
  db : Database
  issued : List String
  handed : List Handout

/-- The records a call gives to its caller: the claimed Run, or the Run it reads. -/
def recordsOf : (call : Call) → call.Reply → List RunRecord
  | .run (.claimNextRun _ _ _), reply => (reply : Option RunLeaseClaim).toList.map (·.run)
  | .run (.getRunInternal _), reply => (reply : Option RunRecord).toList
  | .run (.getRunForTenant _ _), reply => (reply : Option RunRecord).toList
  | .run (.getRunByClientRequestId _ _), reply => (reply : Option RunRecord).toList
  | _, _ => []

/-- The lease token a request draws, whether or not a Run is claimed with it. -/
def Request.drawn (request : Request) : List String :=
  match request.call with
  | .run (.claimNextRun _ _ _) => ["lease_" ++ request.reading.uuid 0]
  | _ => []

/-- One request, and what its caller holds afterwards. -/
def Session.next (hasher : Hasher) (session : Session) (request : Request) : Session :=
  let issued := session.issued ++ request.drawn
  match request.call.perform hasher session.db request.reading with
  | .error _ => { session with issued := issued }
  | .ok (reply, after) =>
    { db := after
      issued := issued
      handed := session.handed ++ (recordsOf request.call reply).map fun record ↦ ⟨record, issued⟩ }

def sessionMachine (hasher : Hasher) : Machine Session Request where
  init := ⟨Database.empty, [], []⟩
  next := Session.next hasher

/-- The record is that of the token's own claim or of a later read, with the results of the attempt
filled in. -/
def OwnRecord (session : Session) (run : RunRecord) (token : String) : Prop :=
  ∃ handout ∈ session.handed, token ∈ handout.issued ∧
    ∃ state outputMessage validationErrors errorCode error,
      run = { handout.record with
        state := state
        outputMessage := outputMessage
        validationErrors := validationErrors
        errorCode := errorCode
        error := error }

/-- How callers use the store: a claim draws a token never issued before, attempt events are no
lifecycle events, and a commit passes the record of its own claim or of a later read. -/
def Behaved (session : Session) (request : Request) : Prop :=
  match request.call with
  | .run (.claimNextRun _ _ _) => "lease_" ++ request.reading.uuid 0 ∉ session.issued
  | .run (.appendAttemptEvent _ _ eventType _) => eventType ∉ lifecycleEventTypes
  | .run (.commitCompletedRun run token) => OwnRecord session run token
  | .run (.commitCheckpointConflict run token _) => OwnRecord session run token
  | .run (.quarantineCheckpointConflict run token _) => OwnRecord session run token
  | .run (.commitCancelledRun run _ token) => OwnRecord session run token
  | .run (.commitFailedRun run token _ _ _ _) => OwnRecord session run token
  | _ => True

theorem session_next_db (hasher : Hasher) (session : Session) (request : Request) :
    (session.next hasher request).db = request.apply hasher session.db := by
  unfold Session.next Request.apply
  cases request.call.perform hasher session.db request.reading <;> rfl

/-- The session only watches the stores. -/
theorem session_run_db (hasher : Hasher) (session : Session) (history : List Request) :
    ((sessionMachine hasher).run session history).db =
      (storeMachine hasher).run session.db history := by
  induction history generalizing session with
  | nil => rfl
  | cons request rest ih =>
    rw [Machine.run_cons, ih, Machine.run_cons]
    exact congrArg (fun db ↦ (storeMachine hasher).run db rest)
      (session_next_db hasher session request)

/-! ### The invariant of a session -/

/-- Every Run agrees with its log, events are numbered, and every event belongs to a Run. -/
structure LogsAgree (db : Database) : Prop where
  logs : ∀ runId row, db.runs.find runId = some row → LogAgrees row (typesOf db.runEvents runId)
  sequenced : ∀ runId, Sequenced db.runEvents runId
  owned : ∀ runId, db.runs.find runId = none → typesOf db.runEvents runId = []

theorem logsAgree_empty : LogsAgree Database.empty where
  logs runId row hfind := by simp [Database.empty] at hfind
  sequenced runId := rfl
  owned runId _ := rfl

theorem logsAgree_same {db after : Database} (hagree : LogsAgree db)
    (hsame : SameRunTables db after) : LogsAgree after := by
  obtain ⟨hruns, hevents, -⟩ := hsame
  refine ⟨?_, ?_, ?_⟩
  · rw [hruns, hevents]
    exact hagree.logs
  · rw [hevents]
    exact hagree.sequenced
  · rw [hruns, hevents]
    exact hagree.owned

/-- One rewritten or new row with its notes keeps the agreement of the whole table. -/
theorem logsAgree_rewrites {db after : Database} {runId : String} {row : RunRow}
    {notes : List Note} (hagree : LogsAgree db) (hruns : RewritesRun db after runId row)
    (hevents : after.runEvents = appendNotes db.runEvents runId notes)
    (hlog : LogAgrees row (typesOf db.runEvents runId ++ notes.map Note.eventType)) :
    LogsAgree after := by
  refine ⟨fun other otherRow hother ↦ ?_, fun other ↦ ?_, fun other hother ↦ ?_⟩
  · rw [hruns other] at hother
    rw [hevents, typesOf_appendNotes]
    by_cases heq : other = runId
    · subst heq
      rw [if_pos rfl] at hother ⊢
      obtain rfl := Option.some.inj hother
      exact hlog
    · rw [if_neg heq] at hother
      rw [if_neg (Ne.symm heq), List.append_nil]
      exact hagree.logs other otherRow hother
  · rw [hevents]
    exact sequenced_appendNotes (hagree.sequenced other) runId notes
  · rw [hruns other] at hother
    rw [hevents, typesOf_appendNotes]
    by_cases heq : other = runId
    · rw [if_pos heq] at hother
      cases hother
    · rw [if_neg heq] at hother
      rw [if_neg (Ne.symm heq), List.append_nil]
      exact hagree.owned other hother

/-- A new Run agrees with its first event, or with an empty log. -/
theorem logAgrees_createdRow {run : RunRecord} (hnew : isNewQueuedRun run = true)
    {types : List String} (htypes : types = [] ∨ types = ["run.queued"]) :
    LogAgrees (createdRow run) types := by
  have hstatus := createdRow_status hnew
  simp only [isNewQueuedRun, Bool.and_eq_true, beq_iff_eq] at hnew
  have hattempt : (createdRow run).attempt = 0 := by
    unfold createdRow
    split_ifs <;> grind [runValues]
  have hflag : (createdRow run).cancelRequested = false := by
    unfold createdRow
    split_ifs <;> grind [runValues]
  refine ⟨?_, ?_, ?_⟩
  · rw [hattempt]
    rcases htypes with rfl | rfl <;> rfl
  · rw [hflag]
    rcases htypes with rfl | rfl <;> rfl
  · unfold StatusAgrees
    rw [hstatus]
    rcases htypes with rfl | rfl
    · exact ⟨by decide, by decide⟩
    · exact ⟨by decide, by decide⟩

/-- Every change keeps the agreement, for callers that use the two open operations as they do. -/
theorem logsAgree_change {db after : Database} {reading : Reading} {call : RunCall}
    (hagree : LogsAgree db) (hchange : RunChange db reading call after)
    (hquiet : ∀ runId token eventType payload,
      call = .appendAttemptEvent runId token eventType payload →
        eventType ∉ lifecycleEventTypes)
    (hattempt : ∀ run reason token row, call = .commitCancelledRun run reason token →
      db.runs.find run.runId = some row → row.leaseToken = some token →
        run.attempt = row.attempt) :
    LogsAgree after := by
  cases hchange with
  | same htables => exact logsAgree_same hagree htables
  | created run notes hcall hnew hfresh hseed hruns hevents =>
    refine logsAgree_rewrites hagree hruns hevents ?_
    rw [hagree.owned run.runId hfresh, List.nil_append]
    refine logAgrees_createdRow hnew ?_
    rcases hcall with ⟨-, rfl⟩ | ⟨payload, -, rfl⟩
    · exact .inl rfl
    · exact .inr rfl
  | rewritten runId row rewritten notes hfind hrow hruns hevents =>
    refine logsAgree_rewrites hagree hruns hevents
      (logAgrees_rowChange (hagree.logs runId row hfind) hrow (hquiet runId) ?_)
    intro run reason token hcall htoken
    cases hrow with
    | cancel committed _ _ hcommit hrun =>
      obtain ⟨rfl, rfl, rfl⟩ : run = committed ∧ _ ∧ _ := by
        simpa only [RunCall.commitCancelledRun.injEq] using hcall.symm.trans hcommit
      exact hattempt run _ _ row hcall (hrun ▸ hfind) htoken
    | conflict _ _ _ hconflict =>
      rcases hconflict with hconflict | ⟨hconflict, -⟩
      all_goals cases hcall.symm.trans hconflict
    | claimQueued _ _ _ hother | takeover _ _ _ _ hother | renew _ _ hother | expire _ hother
    | marker _ _ _ hother | attemptEvent _ _ _ hother | controlEvent _ _ hother
    | requestCancel hother | cancelQueued hother | fail _ _ _ _ _ _ hother
    | quarantine _ _ _ hother | resolve _ _ _ _ _ _ _ hother => cases hcall.symm.trans hother
  | completed run token row state hcall hcompletion =>
    refine logsAgree_rewrites hagree hcompletion.runs hcompletion.events ?_
    exact logAgrees_terminal ["checkpoint.saved"] "run.completed"
      (hagree.logs run.runId row hcompletion.find) (.inr hcompletion.attempt.1) rfl rfl (by decide)
      fun hends ↦ ⟨hends, rfl, hcompletion.flag⟩

/-- The leases of the rows are among the issued tokens, and a handed record has the attempt of
every row whose lease is one of the tokens issued by then. -/
structure HandsAgree (session : Session) : Prop where
  leases : ∀ runId row token, session.db.runs.find runId = some row →
    row.leaseToken = some token → token ∈ session.issued
  known : ∀ handout ∈ session.handed, ∀ token ∈ handout.issued, token ∈ session.issued
  attempts : ∀ handout ∈ session.handed, ∀ token ∈ handout.issued, ∀ row,
    session.db.runs.find handout.record.runId = some row → row.leaseToken = some token →
      row.attempt = handout.record.attempt

/-- A lease after a request is an older one on the same attempt, or the token it drew. -/
theorem lease_of_apply {hasher : Hasher} {db : Database} {request : Request}
    {runId token : String} {row : RunRow}
    (hfind : (request.apply hasher db).runs.find runId = some row)
    (htoken : row.leaseToken = some token) :
    (∃ before, db.runs.find runId = some before ∧ before.leaseToken = some token ∧
      row.attempt = before.attempt) ∨ token ∈ request.drawn := by
  rcases runTables_of_apply hasher db request with hsame | ⟨call, hcall, hchange⟩
  · exact .inl ⟨row, by rw [← hsame.1, hfind], htoken, rfl⟩
  · rcases lease_origin hchange hfind htoken with hbefore | ⟨⟨ownerId, duration, code, rfl⟩, hnew⟩
    · exact .inl hbefore
    · right
      simp only [Request.drawn, hcall]
      exact List.mem_singleton.mpr hnew

/-- A record that a call hands out is the row as the call leaves it. -/
theorem attempt_of_recordsOf {hasher : Hasher} {db after : Database} {reading : Reading}
    {call : Call} {reply : call.Reply} {record : RunRecord} {row : RunRow}
    (hok : call.perform hasher db reading = .ok (reply, after))
    (hmem : record ∈ recordsOf call reply) (hfind : after.runs.find record.runId = some row) :
    row.attempt = record.attempt := by
  unfold recordsOf at hmem
  split at hmem
  · next ownerId duration code claim =>
    obtain ⟨claim, hclaim, rfl⟩ := List.mem_map.mp hmem
    obtain rfl := Option.mem_toList.mp hclaim
    obtain ⟨before, -, -, -, hrun, hruns⟩ := claimNextRun_eq_some hok
    rw [hruns, if_pos rfl] at hfind
    rw [← Option.some.inj hfind, hrun]
    rfl
  · next runId reply =>
    simp only [Call.perform, RunCall.perform] at hok
    obtain ⟨hreply, rfl⟩ := reads_eq_ok hok
    obtain rfl := Option.mem_toList.mp hmem
    obtain ⟨found, hfound, rfl⟩ := Option.map_eq_some_iff.mp (Except.ok.inj hreply)
    obtain rfl : found = row := Option.some.inj (hfound.symm.trans hfind)
    rfl
  · next runId tenantId reply =>
    simp only [Call.perform, RunCall.perform] at hok
    obtain ⟨hreply, rfl⟩ := reads_eq_ok hok
    obtain rfl := Option.mem_toList.mp hmem
    obtain ⟨found, hfound, rfl⟩ := Option.map_eq_some_iff.mp (Except.ok.inj hreply)
    obtain ⟨hfound, -⟩ := (findRunForTenant_eq_some_iff _ _ _ _).mp hfound
    obtain rfl : found = row := Option.some.inj (hfound.symm.trans hfind)
    rfl
  · next tenantId clientRequestId reply =>
    simp only [Call.perform, RunCall.perform] at hok
    obtain ⟨hreply, rfl⟩ := reads_eq_ok hok
    obtain rfl := Option.mem_toList.mp hmem
    obtain ⟨entry, hentry, rfl⟩ := Option.map_eq_some_iff.mp (Except.ok.inj hreply)
    have hfound := (Table.mem_rows_iff _ _ _).mp (List.mem_of_find?_eq_some hentry)
    obtain rfl : entry.2 = row := Option.some.inj (hfound.symm.trans hfind)
    rfl
  · cases hmem

theorem mem_issued_next {hasher : Hasher} {session : Session} {request : Request} (token : String) :
    token ∈ (session.next hasher request).issued ↔
      token ∈ session.issued ∨ token ∈ request.drawn := by
  unfold Session.next
  split <;> exact List.mem_append

/-- What is handed out after a request was handed out before, or is a record of the row as it is
now. -/
theorem mem_handed_next {hasher : Hasher} {session : Session} {request : Request}
    {handout : Handout} (hmem : handout ∈ (session.next hasher request).handed) :
    handout ∈ session.handed ∨ handout.issued = (session.next hasher request).issued ∧
      ∀ row, (session.next hasher request).db.runs.find handout.record.runId = some row →
        row.attempt = handout.record.attempt := by
  unfold Session.next at hmem ⊢
  cases hperform : request.call.perform hasher session.db request.reading with
  | error error =>
    rw [hperform] at hmem
    exact .inl hmem
  | ok result =>
    rw [hperform] at hmem
    rcases List.mem_append.mp hmem with hold | hnew
    · exact .inl hold
    · obtain ⟨record, hrecord, rfl⟩ := List.mem_map.mp hnew
      exact .inr ⟨rfl, fun row hfind ↦ attempt_of_recordsOf hperform hrecord hfind⟩

/-- A drawn token is new. -/
theorem drawn_fresh {session : Session} {request : Request} (hbehaved : Behaved session request)
    {token : String} (hdrawn : token ∈ request.drawn) : token ∉ session.issued := by
  unfold Behaved at hbehaved
  unfold Request.drawn at hdrawn
  split at hdrawn
  · next ownerId duration code hcall =>
    rw [hcall] at hbehaved
    rw [List.mem_singleton.mp hdrawn]
    exact hbehaved
  · cases hdrawn

theorem handsAgree_next {hasher : Hasher} {session : Session} {request : Request}
    (hagree : HandsAgree session) (hbehaved : Behaved session request) :
    HandsAgree (session.next hasher request) := by
  refine ⟨fun runId row token hfind htoken ↦ ?_, fun handout hmem token htoken ↦ ?_,
    fun handout hmem token hissued row hfind htoken ↦ ?_⟩
  · rw [session_next_db] at hfind
    rw [mem_issued_next]
    rcases lease_of_apply hfind htoken with ⟨before, hbefore, hold, -⟩ | hdrawn
    · exact .inl (hagree.leases runId before token hbefore hold)
    · exact .inr hdrawn
  · rcases mem_handed_next hmem with hold | ⟨hissued, -⟩
    · exact (mem_issued_next token).mpr (.inl (hagree.known handout hold token htoken))
    · rwa [hissued] at htoken
  · rcases mem_handed_next hmem with hold | ⟨-, hnew⟩
    · rw [session_next_db] at hfind
      rcases lease_of_apply hfind htoken with ⟨before, hbefore, hlease, hattempt⟩ | hdrawn
      · rw [hattempt]
        exact hagree.attempts handout hold token hissued before hbefore hlease
      · exact absurd (hagree.known handout hold token hissued) (drawn_fresh hbehaved hdrawn)
    · exact hnew row hfind

/-- A cancelling commit passes the attempt of the row whose lease it holds. -/
theorem attempt_of_ownRecord {session : Session} (hagree : HandsAgree session) {run : RunRecord}
    {token : String} (hown : OwnRecord session run token) {row : RunRow}
    (hfind : session.db.runs.find run.runId = some row) (htoken : row.leaseToken = some token) :
    run.attempt = row.attempt := by
  obtain ⟨handout, hmem, hissued, state, output, errors, code, error, rfl⟩ := hown
  exact (hagree.attempts handout hmem token hissued row hfind htoken).symm

/-- The invariant of a session of well-behaved callers. -/
def SessionAgrees (session : Session) : Prop := LogsAgree session.db ∧ HandsAgree session

theorem sessionAgrees_next {hasher : Hasher} {session : Session} {request : Request}
    (hagrees : SessionAgrees session) (hbehaved : Behaved session request) :
    SessionAgrees (session.next hasher request) := by
  refine ⟨?_, handsAgree_next hagrees.2 hbehaved⟩
  rw [session_next_db]
  rcases runTables_of_apply hasher session.db request with hsame | ⟨call, hcall, hchange⟩
  · exact logsAgree_same hagrees.1 hsame
  · refine logsAgree_change hagrees.1 hchange ?_ ?_
    · rintro runId token eventType payload rfl
      unfold Behaved at hbehaved
      rw [hcall] at hbehaved
      exact hbehaved
    · rintro run reason token row rfl hfind htoken
      unfold Behaved at hbehaved
      rw [hcall] at hbehaved
      exact attempt_of_ownRecord hagrees.2 hbehaved hfind htoken

theorem sessionAgrees_init (hasher : Hasher) : SessionAgrees (sessionMachine hasher).init :=
  ⟨logsAgree_empty, ⟨fun _ _ _ hfind ↦ by simp [sessionMachine, Database.empty] at hfind,
    fun _ hmem ↦ absurd hmem List.not_mem_nil, fun _ hmem ↦ absurd hmem List.not_mem_nil⟩⟩

theorem sessionAgrees_run {hasher : Hasher} {history : List Request}
    (hbehaved : (sessionMachine hasher).Admits Behaved (sessionMachine hasher).init history) :
    SessionAgrees ((sessionMachine hasher).run (sessionMachine hasher).init history) :=
  (sessionMachine hasher).invariant_run SessionAgrees
    (fun _ _ hagrees hnext ↦ sessionAgrees_next hagrees hnext) (sessionAgrees_init hasher) hbehaved

/-! ### Reading the row off the log -/

/-- The terminal events of a log. -/
def terminalsOf (types : List String) : List String :=
  types.filter fun type ↦ decide (type ∈ terminalEventTypes)

/-- The terminal event of each status. -/
def RunStatus.terminalEvents : RunStatus → List String
  | queued | running => []
  | completed => ["run.completed"]
  | failed => ["run.failed"]
  | cancelled => ["run.cancelled"]

theorem terminalsOf_open {types : List String}
    (hopen : ∀ type ∈ types, type ∉ terminalEventTypes) : terminalsOf types = [] :=
  List.filter_eq_nil_iff.mpr fun type hmem ↦ by simpa using hopen type hmem

theorem terminalsOf_endsWith {types closing : List String} {terminal : String}
    (hends : EndsWith types closing terminal)
    (hclosing : ∀ type ∈ closing, type ∉ terminalEventTypes)
    (hterminal : terminal ∈ terminalEventTypes) : terminalsOf types = [terminal] := by
  obtain ⟨before, after, rfl, hbefore, hafter⟩ := hends
  have hquiet : ∀ type ∈ after, type ∉ terminalEventTypes := fun type hmem hterm ↦
    controlPlane_not_lifecycle type (hafter type hmem) (List.mem_append_right _ hterm)
  have hself : terminalsOf [terminal] = [terminal] := by
    simp [terminalsOf, hterminal]
  have happend : ∀ first second : List String,
      terminalsOf (first ++ second) = terminalsOf first ++ terminalsOf second :=
    fun first second ↦ List.filter_append first second
  rw [happend, happend, happend, terminalsOf_open hbefore, terminalsOf_open hclosing,
    terminalsOf_open hquiet, hself]
  rfl

/-- The terminal events of a log are the one of its status. -/
theorem terminalsOf_statusAgrees {row : RunRow} {types : List String}
    (hagrees : StatusAgrees row types) : terminalsOf types = row.status.terminalEvents := by
  unfold StatusAgrees at hagrees
  cases hstatus : row.status with
  | queued | running =>
    rw [hstatus] at hagrees
    exact terminalsOf_open hagrees.2
  | completed | failed | cancelled =>
    rw [hstatus] at hagrees
    exact terminalsOf_endsWith hagrees.1 (by decide) (by decide)

/-- What the log of a Run says about its row. -/
structure RowFromLog (row : RunRow) (types : List String) : Prop where
  attempt : row.attempt = types.count "run.started"
  cancelRequested : row.cancelRequested = true ↔ types.count "run.cancel_requested" = 1
  atMostOneRequest : types.count "run.cancel_requested" ≤ 1
  queued : row.status = .queued ↔ types.count "run.started" = 0 ∧ terminalsOf types = []
  completed : row.status = .completed ↔ terminalsOf types = ["run.completed"]
  failed : row.status = .failed ↔ terminalsOf types = ["run.failed"]
  cancelled : row.status = .cancelled ↔ terminalsOf types = ["run.cancelled"]
  closed : row.status.isTerminal = true → row.leaseCleared = true ∧
    ∃ before terminal after, types = before ++ [terminal] ++ after ∧
      terminal ∈ terminalEventTypes ∧ ∀ type ∈ after, type ∈ controlPlaneEventTypes
  saved : row.status = .completed → row.cancelRequested = false ∧
    ∃ before after, types = before ++ ["checkpoint.saved", "run.completed"] ++ after
  requested : row.status = .cancelled → row.cancelRequested = true

theorem endsWith_split {types closing : List String} {terminal : String}
    (hends : EndsWith types closing terminal) (hterminal : terminal ∈ terminalEventTypes) :
    ∃ before terminal after, types = before ++ [terminal] ++ after ∧
      terminal ∈ terminalEventTypes ∧ ∀ type ∈ after, type ∈ controlPlaneEventTypes := by
  obtain ⟨before, after, rfl, -, hafter⟩ := hends
  exact ⟨before ++ closing, terminal, after, rfl, hterminal, hafter⟩

theorem LogAgrees.rowFromLog {row : RunRow} {types : List String} (hagrees : LogAgrees row types) :
    RowFromLog row types := by
  have hterminals := terminalsOf_statusAgrees hagrees.status
  have hstatus := hagrees.status
  have hcancel := hagrees.cancel
  refine ⟨hagrees.attempt, ?_, ?_, ?_, ?_, ?_, ?_, ?_, ?_, ?_⟩
  · rw [hcancel]
    cases row.cancelRequested <;> simp
  · rw [hcancel]
    split <;> omega
  · unfold StatusAgrees at hstatus
    rw [hterminals]
    cases hcase : row.status with
    | queued =>
      rw [hcase] at hstatus
      simp [RunStatus.terminalEvents, hstatus.1]
    | running =>
      rw [hcase] at hstatus
      simp only [reduceCtorEq, RunStatus.terminalEvents, and_true, false_iff]
      omega
    | completed | failed | cancelled => simp [RunStatus.terminalEvents]
  · rw [hterminals]
    cases row.status <;> decide
  · rw [hterminals]
    cases row.status <;> decide
  · rw [hterminals]
    cases row.status <;> decide
  · intro hterminal
    unfold StatusAgrees at hstatus
    cases hcase : row.status with
    | queued | running =>
      rw [hcase] at hterminal
      cases hterminal
    | completed | cancelled =>
      rw [hcase] at hstatus
      exact ⟨hstatus.2.1, endsWith_split hstatus.1 (by decide)⟩
    | failed =>
      rw [hcase] at hstatus
      exact ⟨hstatus.2, endsWith_split hstatus.1 (by decide)⟩
  · intro hcase
    unfold StatusAgrees at hstatus
    rw [hcase] at hstatus
    obtain ⟨⟨before, after, htypes, -⟩, -, hflag⟩ := hstatus
    exact ⟨hflag, before, after, by rw [htypes, List.append_assoc before]; rfl⟩
  · intro hcase
    unfold StatusAgrees at hstatus
    rw [hcase] at hstatus
    exact hstatus.2.2

theorem terminal_row_run {hasher : Hasher} {db : Database} {runId : String} {row : RunRow}
    (hfind : db.runs.find runId = some row) (hterminal : row.status.isTerminal = true)
    (more : List Request) : ((storeMachine hasher).run db more).runs.find runId = some row := by
  refine (storeMachine hasher).invariant_run (fun db ↦ db.runs.find runId = some row) ?_ hfind
    ((storeMachine hasher).admits_true _ _)
  intro db request hkept _
  rcases runTables_of_apply hasher db request with hsame | ⟨call, -, hchange⟩
  · exact (congrArg (·.find runId) hsame.1).trans hkept
  · exact terminal_row_fixed hchange hkept hterminal

/-- The event log determines the Run row. After every history of well-behaved callers, the events
of each Run are numbered from 1 in append order and tell its attempt, its cancel flag and its
status; and a terminal row stays as it is under whatever requests follow. -/
theorem event_log_determines_run (hasher : Hasher) (history : List Request)
    (hbehaved : (sessionMachine hasher).Admits Behaved (sessionMachine hasher).init history) :
    let db := (storeMachine hasher).run Database.empty history
    ∀ runId row, db.runs.find runId = some row →
      (eventsOf db.runEvents runId).map EventRow.sequence =
          List.range' 1 (eventsOf db.runEvents runId).length ∧
        RowFromLog row (typesOf db.runEvents runId) ∧
        (row.status.isTerminal = true → ∀ more,
          ((storeMachine hasher).run db more).runs.find runId = some row) := by
  intro db runId row hfind
  have hagrees := (sessionAgrees_run hbehaved).1
  rw [session_run_db] at hagrees
  exact ⟨hagrees.sequenced runId, (hagrees.logs runId row hfind).rowFromLog,
    fun hterminal more ↦ terminal_row_run hfind hterminal more⟩

/-- The record of the first claim of `run_a`. -/
def claimedSampleRun : RunRecord :=
  rowToRun "run_a" (claimedRow Database.empty (runValues (sampleRun "run_a" "09:00" none)) "worker"
    "lease_1" "1" 0 30000 none)

/-- One Run is submitted, claimed, asked to cancel and cancelled by its worker. -/
def cancelledHistory : List Request :=
  [submitRequest (sampleRun "run_a" "09:00" none),
    ⟨sampleReading 0 "1", .run (.claimNextRun "worker" 30 none)⟩,
    ⟨sampleReading 1 "2", .run (.requestCancelAtomically "run_a" "acme")⟩,
    ⟨sampleReading 2 "3", .run (.commitCancelledRun claimedSampleRun "cancelled" "lease_1")⟩]

theorem event_log_determines_cancelled_run :
    (sessionMachine sampleHasher).Admits Behaved (sessionMachine sampleHasher).init
        cancelledHistory ∧
      let db := (storeMachine sampleHasher).run Database.empty cancelledHistory
      typesOf db.runEvents "run_a" =
          ["run.queued", "run.started", "run.cancel_requested", "run.cancelled"] ∧
        ∃ row, db.runs.find "run_a" = some row ∧ row.status = .cancelled ∧
          RowFromLog row (typesOf db.runEvents "run_a") := by
  have hbehaved : (sessionMachine sampleHasher).Admits Behaved (sessionMachine sampleHasher).init
      cancelledHistory := by
    refine ⟨trivial, List.not_mem_nil, trivial, ?_, trivial⟩
    exact ⟨⟨claimedSampleRun, ["lease_1"]⟩, List.mem_of_getElem? (i := 0) rfl,
      List.mem_singleton.mpr rfl, none, none, [], none, none, rfl⟩
  refine ⟨hbehaved, by decide +kernel, _, rfl, rfl, ?_⟩
  exact (event_log_determines_run sampleHasher cancelledHistory hbehaved "run_a" _ rfl).2.1

end AgentRuntime.Store
