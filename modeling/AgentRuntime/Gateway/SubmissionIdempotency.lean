import AgentRuntime.Execution.System
import AgentRuntime.Gateway.Submission
import AgentRuntime.Store.ClientRequests

/-!
# Submission idempotency

Any number of manager processes and gateways submit over one store, each between any two steps of
the others, while workers go on executing. A Run that was created for a client request id stays the
only one of that id (`Persists`, `RequestsUnique`), so it does not matter whether a submission found
it at its first lookup, at the manager's, or after the unique index refused its own: it returns that
Run, and a gateway compares its request with the same persisted input. What the two lookups of a
gateway tell apart is only the flag: `existed` says that the first lookup found the Run
(`submissions_are_idempotent`).
-/

set_option autoImplicit false
set_option relaxedAutoImplicit false

namespace AgentRuntime.Gateway

open Library Store Execution

/-! ### The submitters and the store -/

/-- How a submission ended: what its first lookup found, the Run it created, and its result. -/
structure Ending where
  submission : Submission
  found : Option Bool
  created : Option String
  result : Except SubmitError SubmitReply

/-- The database and what happened around it. -/
structure SubmitWorld where
  db : Database
  found : Nat → Option Bool
  created : Nat → Option String
  endings : List Ending

/-- What an operation draws from outside. -/
inductive SubmitResponse where
  | store (reading : Reading) (fault : Option StorageFault)
  | projected (projection : ActionProjection)
  | incomplete (message : String)
  | failed (failure : Failure)
  | noted

namespace SubmitWorld

/-- The answer to a submitter's first lookup, and its insert, are remembered. -/
def record (world : SubmitWorld) (thread : Nat) (answered : Bool) (after : Database) :
    (call : RunCall) → call.Reply → SubmitWorld
  | .getRunByClientRequestId .., reply =>
    let found : Option RunRecord := reply
    { world with
      db := after
      found := if answered then
          Function.update world.found thread ((world.found thread).or (some found.isSome))
        else world.found }
  | .createRunWithEvent run .., _ =>
    { world with
      db := after
      created := Function.update world.created thread (some run.runId) }
  | _, _ => { world with db := after }

/-- A submitter performs a store operation. -/
def performStore (hasher : Hasher) (world : SubmitWorld) (thread : Nat) (call : RunCall)
    (reading : Reading) (fault : Option StorageFault) :
    Except SubmitError call.Reply × SubmitWorld :=
  match fault with
  | some (.before message) => (.error (.failure (.storage message)), world)
  | _ =>
    match call.perform hasher world.db reading with
    | .error error => (.error (.failure (.store error)), world)
    | .ok (reply, after) =>
      match fault with
      | some (.after message) =>
        (.error (.failure (.storage message)), world.record thread false after call reply)
      | _ => (.ok reply, world.record thread true after call reply)

/-- A submitter performs an operation; nothing happens when the response does not fit. -/
def perform (hasher : Hasher) (world : SubmitWorld) (thread : Nat) :
    (op : SubmitOp) → SubmitResponse → Option (Except SubmitError op.Answer × SubmitWorld)
  | .store call, .store reading fault => some (world.performStore hasher thread call reading fault)
  | .project _, .projected projection => some (.ok projection, world)
  | .project _, .incomplete message => some (.error (.actionEvidenceIncomplete message), world)
  | .project _, .failed failure => some (.error (.failure failure), world)
  | .ended submission result, .noted =>
    some (.ok (),
      { world with
        endings := world.endings ++
          [⟨submission, world.found thread, world.created thread, result⟩] })
  | _, _ => none

end SubmitWorld

/-- The submitters with what is left of their programs. -/
structure SubmitSystem where
  world : SubmitWorld
  threads : Nat → Option (Submitting Unit)
  started : Nat

/-- One event: a submission starts, a submitter performs its next operation or dies, or another
process calls a store. -/
inductive SubmitLabel where
  | start (submission : Submission)
  | step (thread : Nat) (response : SubmitResponse)
  | crash (thread : Nat)
  | other (request : Request)

/-- A cancelling commit writes back what its Run was submitted with, as the workers do. -/
def keepsSubmission (db : Database) : Call → Bool
  | .run (.commitCancelledRun run _ _) =>
    match db.runs.find run.runId with
    | none => true
    | some row =>
      run.clientRequestId == row.clientRequestId && run.agentId == row.agentId &&
        run.agentVersion == row.agentVersion && run.domainId == row.domainId &&
        run.schemaVersion == row.schemaVersion && run.input == row.input
  | _ => true

namespace SubmitSystem

/-- An empty store without submitters. -/
def init : SubmitSystem := ⟨⟨.empty, fun _ ↦ none, fun _ ↦ none, []⟩, fun _ ↦ none, 0⟩

/-- A submitter performs its next operation. -/
def step (hasher : Hasher) (system : SubmitSystem) (thread : Nat) (response : SubmitResponse) :
    SubmitSystem :=
  match system.threads thread with
  | some (.call op _ next) =>
    match system.world.perform hasher thread op response with
    | some (answer, world) =>
      { system with
        world := world
        threads := Function.update system.threads thread (some (next answer)) }
    | none => system
  | _ => system

/-- The system after one event. -/
def next (hasher : Hasher) (system : SubmitSystem) : SubmitLabel → SubmitSystem
  | .start submission =>
    { system with
      threads := Function.update system.threads system.started (some submission.program)
      started := system.started + 1 }
  | .step thread response => system.step hasher thread response
  | .crash thread => { system with threads := Function.update system.threads thread none }
  | .other request =>
    if keepsSubmission system.world.db request.call then
      { system with world := { system.world with db := request.apply hasher system.world.db } }
    else system

end SubmitSystem

/-- Submitters over an initially empty store, driven by events in any order. -/
def submitMachine (hasher : Hasher) : Machine SubmitSystem SubmitLabel where
  init := SubmitSystem.init
  next := SubmitSystem.next hasher

/-! ### What a Run was submitted with stays -/

/-- The columns that identify a submission. -/
structure SameIdentity (row later : RunRow) : Prop where
  tenantId : later.tenantId = row.tenantId
  clientRequestId : later.clientRequestId = row.clientRequestId
  agentId : later.agentId = row.agentId
  agentVersion : later.agentVersion = row.agentVersion
  domainId : later.domainId = row.domainId
  schemaVersion : later.schemaVersion = row.schemaVersion
  input : later.input = row.input

theorem sameIdentity_refl (row : RunRow) : SameIdentity row row :=
  ⟨rfl, rfl, rfl, rfl, rfl, rfl, rfl⟩

theorem SameIdentity.trans {first second third : RunRow} (hfirst : SameIdentity first second)
    (hsecond : SameIdentity second third) : SameIdentity first third where
  tenantId := hsecond.tenantId.trans hfirst.tenantId
  clientRequestId := hsecond.clientRequestId.trans hfirst.clientRequestId
  agentId := hsecond.agentId.trans hfirst.agentId
  agentVersion := hsecond.agentVersion.trans hfirst.agentVersion
  domainId := hsecond.domainId.trans hfirst.domainId
  schemaVersion := hsecond.schemaVersion.trans hfirst.schemaVersion
  input := hsecond.input.trans hfirst.input

/-- No Run disappears or changes its identity. -/
def Persists (db after : Database) : Prop :=
  ∀ runId row, db.runs.find runId = some row →
    ∃ later, after.runs.find runId = some later ∧ SameIdentity row later

theorem persists_refl (db : Database) : Persists db db :=
  fun _ row hfind ↦ ⟨row, hfind, sameIdentity_refl row⟩

theorem Persists.trans {first second third : Database} (hfirst : Persists first second)
    (hsecond : Persists second third) : Persists first third := by
  intro runId row hfind
  obtain ⟨later, hlater, hsame⟩ := hfirst runId row hfind
  obtain ⟨last, hlast, hsameLast⟩ := hsecond runId later hlater
  exact ⟨last, hlast, hsame.trans hsameLast⟩

theorem persists_of_runs_eq {db after : Database} (hruns : after.runs = db.runs) :
    Persists db after := by
  intro runId row hfind
  exact ⟨row, by rw [hruns, hfind], sameIdentity_refl row⟩

theorem Persists.rewrites {db after : Database} {runId : String} {row rewritten : RunRow}
    (hfind : db.runs.find runId = some row) (hruns : RewritesRun db after runId rewritten)
    (hsame : SameIdentity row rewritten) : Persists db after := by
  intro other otherRow hother
  by_cases heq : other = runId
  · subst heq
    obtain rfl : row = otherRow := Option.some.inj (hfind.symm.trans hother)
    exact ⟨rewritten, by rw [hruns, if_pos rfl], hsame⟩
  · exact ⟨otherRow, by rw [hruns, if_neg heq, hother], sameIdentity_refl otherRow⟩

theorem persists_perform {hasher : Hasher} {db after : Database} {reading : Reading}
    {call : RunCall} {reply : call.Reply}
    (hok : call.perform hasher db reading = .ok (reply, after))
    (hkeeps : keepsSubmission db (.run call) = true) : Persists db after := by
  cases change_of_perform hok with
  | same htables => exact persists_of_runs_eq htables.1
  | created run notes _ _ hfresh _ hruns =>
    intro runId row hfind
    have hne : runId ≠ run.runId := by
      rintro rfl
      rw [hfresh] at hfind
      cases hfind
    exact ⟨row, by rw [hruns, if_neg hne, hfind], sameIdentity_refl row⟩
  | rewritten runId row rewritten notes hfind hchange hruns =>
    refine Persists.rewrites hfind hruns ?_
    cases hchange with
    | cancel run token reason hcall hrun =>
      subst hcall hrun
      simp only [keepsSubmission, hfind, Bool.and_eq_true, beq_iff_eq] at hkeeps
      obtain ⟨⟨⟨⟨⟨hclient, hagent⟩, hversion⟩, hdomain⟩, hschema⟩, hinput⟩ := hkeeps
      exact ⟨rfl, hclient, hagent, hversion, hdomain, hschema, hinput⟩
    | claimQueued | takeover | renew | expire | marker | attemptEvent | controlEvent
    | requestCancel | cancelQueued | fail | conflict | quarantine | resolve =>
      exact ⟨rfl, rfl, rfl, rfl, rfl, rfl, rfl⟩
  | completed run token row state _ hcompletion =>
    exact Persists.rewrites hcompletion.find hcompletion.runs ⟨rfl, rfl, rfl, rfl, rfl, rfl, rfl⟩

theorem persists_apply {hasher : Hasher} {db : Database} {request : Request}
    (hkeeps : keepsSubmission db request.call = true) :
    Persists db (request.apply hasher db) := by
  rcases runTables_of_apply hasher db request with hsame | ⟨call, hcall, -⟩
  · exact persists_of_runs_eq hsame.1
  · obtain ⟨reading, _⟩ := request
    subst hcall
    cases hperform : (Call.run call).perform hasher db reading with
    | error error =>
      rw [apply_of_error hperform]
      exact persists_refl db
    | ok result =>
      obtain ⟨reply, after⟩ := result
      rw [apply_of_ok hperform]
      exact persists_perform hperform hkeeps

/-! ### The Run of a client request -/

/-- The Run was created for a client request of the tenant. -/
def HoldsKey (db : Database) (tenantId clientRequestId runId : String) (row : RunRow) : Prop :=
  db.runs.find runId = some row ∧ row.tenantId = tenantId ∧
    row.clientRequestId = some clientRequestId

theorem HoldsKey.persists {db after : Database} {tenantId clientRequestId runId : String}
    {row : RunRow} (hholds : HoldsKey db tenantId clientRequestId runId row)
    (hpersists : Persists db after) :
    ∃ later, HoldsKey after tenantId clientRequestId runId later ∧ SameIdentity row later := by
  obtain ⟨hfind, htenant, hclient⟩ := hholds
  obtain ⟨later, hlater, hsame⟩ := hpersists runId row hfind
  exact ⟨later, ⟨hlater, hsame.tenantId.trans htenant, hsame.clientRequestId.trans hclient⟩, hsame⟩

theorem HoldsKey.unique {db : Database} (hunique : RequestsUnique db)
    {tenantId clientRequestId first second : String} {firstRow secondRow : RunRow}
    (hfirst : HoldsKey db tenantId clientRequestId first firstRow)
    (hsecond : HoldsKey db tenantId clientRequestId second secondRow) :
    first = second ∧ firstRow = secondRow := by
  obtain ⟨hfind, htenant, hclient⟩ := hfirst
  obtain ⟨hother, hotherTenant, hotherClient⟩ := hsecond
  have hsame : first = second := hunique first second firstRow secondRow hfind hother
    (htenant.trans hotherTenant.symm) (hclient.trans hotherClient.symm) (by simp [hclient])
  subst hsame
  exact ⟨rfl, Option.some.inj (hfind.symm.trans hother)⟩

/-- A record of the Run, as far as its identity goes. -/
def Describes (db : Database) (record : RunRecord) : Prop :=
  ∃ row, db.runs.find record.runId = some row ∧ SameIdentity (runValues record) row

theorem Describes.persists {db after : Database} {record : RunRecord}
    (hdescribes : Describes db record) (hpersists : Persists db after) :
    Describes after record := by
  obtain ⟨row, hfind, hsame⟩ := hdescribes
  obtain ⟨later, hlater, hkept⟩ := hpersists record.runId row hfind
  exact ⟨later, hlater, hsame.trans hkept⟩

theorem Describes.holdsKey {db : Database} {record : RunRecord}
    (hdescribes : Describes db record) {clientRequestId : String}
    (hclient : record.clientRequestId = some clientRequestId) :
    ∃ row, HoldsKey db record.tenantId clientRequestId record.runId row ∧
      SameIdentity (runValues record) row := by
  obtain ⟨row, hfind, hsame⟩ := hdescribes
  exact ⟨row, ⟨hfind, hsame.tenantId, hsame.clientRequestId.trans hclient⟩, hsame⟩

theorem describes_rowToRun {db : Database} {runId : String} {row : RunRow}
    (hfind : db.runs.find runId = some row) : Describes db (rowToRun runId row) :=
  ⟨row, hfind, rfl, rfl, rfl, rfl, rfl, rfl, rfl⟩

theorem Describes.persists_runs {db after : Database} {record : RunRecord}
    (hdescribes : Describes db record) (hruns : after.runs = db.runs) : Describes after record :=
  hdescribes.persists (persists_of_runs_eq hruns)

theorem describes_prepared {db seeded : Database} {run reply : RunRecord}
    (hdescribes : Describes db run)
    (hok : prepareClientStateSeed db run = .ok (reply, seeded)) : Describes seeded run := by
  unfold prepareClientStateSeed at hok
  split_ifs at hok
  · obtain ⟨-, rfl⟩ := Prod.mk.inj (Except.ok.inj hok)
    exact hdescribes
  · obtain ⟨-, rfl⟩ := Prod.mk.inj (Except.ok.inj hok)
    obtain ⟨row, hfind, hsame⟩ := hdescribes
    refine ⟨{ row with checkpointBaseRevision := some 0 }, ?_, ?_⟩
    · simp [updateRun, Table.find_modify, hfind]
    · exact hsame.trans ⟨rfl, rfl, rfl, rfl, rfl, rfl, rfl⟩

/-- A Run that was just created is described by its record. -/
theorem describes_created {db after : Database} {reading : Reading} {run reply : RunRecord}
    {eventType : String} {payload : Payload}
    (hok : createRunWithEvent db reading run eventType payload = .ok (reply, after)) :
    Describes after run := by
  unfold createRunWithEvent at hok
  split at hok
  · cases hok
  · split_ifs at hok
    split at hok
    · cases hok
    · next inserted hinsert =>
      split at hok
      · cases hok
      · next seeded prepared hseeded =>
        obtain ⟨-, rfl⟩ := Prod.mk.inj (Except.ok.inj hok)
        obtain ⟨hfresh, rfl⟩ := insertRun_eq_ok hinsert
        have hinserted : Describes
            { db with runs := db.runs.insert run.runId (runValues run) } run :=
          ⟨runValues run, by rw [Table.find_insert_of_fresh _ _ _ _ hfresh, if_pos rfl],
            sameIdentity_refl _⟩
        exact (describes_prepared hinserted hseeded).persists_runs rfl

/-! ### What a submission may end with -/

/-- The gateway tells the request apart from what the Run persisted. -/
def Reused (gateway : DurableActionGateway) (request : ActionCreateRequest) (row : RunRow) : Prop :=
  request.actionType ≠ webhookSend ∨
    gateway.assertSameRequest (rowToRun "" row) (toDurableActionInput request) =
      .error .idempotencyKeyReused

/-- The comparison reads nothing of a Run but its identity. -/
theorem assertSameRequest_congr (gateway : DurableActionGateway) {record : RunRecord} {row : RunRow}
    (hsame : SameIdentity (runValues record) row) (expected : DurableActionInput) :
    gateway.assertSameRequest (rowToRun "" row) expected =
      gateway.assertSameRequest record expected := by
  obtain ⟨-, -, hagent, hversion, hdomain, hschema, hinput⟩ := hsame
  have haction : isActionRun (rowToRun "" row) = isActionRun record := by
    simp only [isActionRun, rowToRun, hagent, hversion, hdomain, hschema]
    rfl
  have hpersisted : gateway.persistedActionInput (rowToRun "" row) =
      gateway.persistedActionInput record := by
    simp only [DurableActionGateway.persistedActionInput, rowToRun, hinput]
    rfl
  unfold DurableActionGateway.assertSameRequest
  rw [haction, hpersisted]

theorem Reused.congr {gateway : DurableActionGateway} {request : ActionCreateRequest}
    {row later : RunRow} (hsame : SameIdentity row later) :
    Reused gateway request later ↔ Reused gateway request row := by
  have hself : SameIdentity (runValues (rowToRun "" row)) row :=
    ⟨rfl, rfl, rfl, rfl, rfl, rfl, rfl⟩
  unfold Reused
  rw [assertSameRequest_congr gateway (hself.trans hsame)]

/-- The gateway refuses to compare the request with what the Run persisted. -/
def Refuses (gateway : DurableActionGateway) (request : ActionCreateRequest) (row : RunRow)
    (message : String) : Prop :=
  request.actionType = webhookSend ∧
    gateway.assertSameRequest (rowToRun "" row) (toDurableActionInput request) =
      .error (.actionEvidenceIncomplete message)

theorem Refuses.congr {gateway : DurableActionGateway} {request : ActionCreateRequest}
    {row later : RunRow} {message : String} (hsame : SameIdentity row later) :
    Refuses gateway request later message ↔ Refuses gateway request row message := by
  have hself : SameIdentity (runValues (rowToRun "" row)) row :=
    ⟨rfl, rfl, rfl, rfl, rfl, rfl, rfl⟩
  unfold Refuses
  rw [assertSameRequest_congr gateway (hself.trans hsame)]

theorem Refuses.not_reused {gateway : DurableActionGateway} {request : ActionCreateRequest}
    {row : RunRow} {message : String} (hrefuses : Refuses gateway request row message) :
    ¬ Reused gateway request row := by
  rintro (htype | hreused)
  · exact htype hrefuses.1
  · rw [hrefuses.2] at hreused
    cases hreused

/-- The Run does not make the key a reused one; where it cannot be compared, the result says so. -/
def Tolerates (gateway : DurableActionGateway) (request : ActionCreateRequest) (row : RunRow)
    (result : Except SubmitError SubmittedAction) : Prop :=
  ¬ Reused gateway request row ∧ ∀ message, Refuses gateway request row message →
    result = .error (.actionEvidenceIncomplete message)

theorem Tolerates.congr {gateway : DurableActionGateway} {request : ActionCreateRequest}
    {row later : RunRow} {result : Except SubmitError SubmittedAction}
    (htolerates : Tolerates gateway request row result) (hsame : SameIdentity row later) :
    Tolerates gateway request later result :=
  ⟨(Reused.congr hsame).not.2 htolerates.1, fun message hrefuses ↦
    htolerates.2 message ((Refuses.congr hsame).1 hrefuses)⟩

/-- How a gateway's submission may end. -/
structure ActionEnds (gateway : DurableActionGateway) (request : ActionCreateRequest)
    (context : TenantContext) (found : Option Bool) (created : Option String)
    (result : Except SubmitError SubmittedAction) (db : Database) : Prop where
  returned : ∀ submitted, result = .ok submitted →
    (∃ row, HoldsKey db context.tenantId (gateway.actionClientRequestId request.idempotencyKey)
      submitted.resource.actionId row ∧ Tolerates gateway request row result) ∧
    (submitted.existed = true ↔ found = some true)
  reused : result = .error .idempotencyKeyReused → created = none ∧
    ∃ runId row, HoldsKey db context.tenantId
      (gateway.actionClientRequestId request.idempotencyKey) runId row ∧ Reused gateway request row
  compared : (∃ message, result = .error (.actionEvidenceIncomplete message)) ∨ found = some true →
    result ≠ .error .idempotencyKeyReused →
    ∃ runId row, HoldsKey db context.tenantId
      (gateway.actionClientRequestId request.idempotencyKey) runId row ∧
        Tolerates gateway request row result

theorem ActionEnds.persists {gateway : DurableActionGateway} {request : ActionCreateRequest}
    {context : TenantContext} {found : Option Bool} {created : Option String}
    {result : Except SubmitError SubmittedAction} {db after : Database}
    (hends : ActionEnds gateway request context found created result db)
    (hpersists : Persists db after) :
    ActionEnds gateway request context found created result after where
  returned submitted hresult := by
    obtain ⟨⟨row, hholds, hsame⟩, hflag⟩ := hends.returned submitted hresult
    obtain ⟨later, hlater, hidentity⟩ := hholds.persists hpersists
    exact ⟨⟨later, hlater, hsame.congr hidentity⟩, hflag⟩
  reused hresult := by
    obtain ⟨hcreated, runId, row, hholds, hreused⟩ := hends.reused hresult
    obtain ⟨later, hlater, hidentity⟩ := hholds.persists hpersists
    exact ⟨hcreated, runId, later, hlater, (Reused.congr hidentity).2 hreused⟩
  compared hwhen hresult := by
    obtain ⟨runId, row, hholds, hsame⟩ := hends.compared hwhen hresult
    obtain ⟨later, hlater, hidentity⟩ := hholds.persists hpersists
    exact ⟨runId, later, hlater, hsame.congr hidentity⟩

/-- How a submission may end. -/
def Submission.Ends (found : Option Bool) (created : Option String) (db : Database) :
    Submission → Except SubmitError SubmitReply → Prop
  | run _ request context _, result => ∀ reply key, result = .ok reply →
    clientKey request.clientRequestId = some key →
    ∃ record row, reply = .run record ∧ HoldsKey db context.tenantId key record.runId row
  | action gateway request _ context _, result => ∃ inner,
    result = Except.map SubmitReply.action inner ∧
      ActionEnds gateway request context found created inner db

theorem Submission.Ends.persists {found : Option Bool} {created : Option String}
    {db after : Database} {submission : Submission} {result : Except SubmitError SubmitReply}
    (hends : submission.Ends found created db result) (hpersists : Persists db after) :
    submission.Ends found created after result := by
  cases submission with
  | run manager request context draw =>
    intro reply key hresult hkey
    obtain ⟨record, row, hreply, hholds⟩ := hends reply key hresult hkey
    obtain ⟨later, hlater, -⟩ := hholds.persists hpersists
    exact ⟨record, later, hreply, hlater⟩
  | action gateway request hvalid context draw =>
    obtain ⟨inner, hresult, hinner⟩ := hends
    exact ⟨inner, hresult, hinner.persists hpersists⟩

/-! ### The protocol of the submitters -/

/-- Runs persist under every step, and each submitter's own notes under those of the others. -/
def submitProtocol (hasher : Hasher) : Protocol Nat SubmitOp.Answer SubmitError SubmitWorld where
  step thread before op answer after :=
    ∃ response, before.perform hasher thread op response = some (answer, after)
  inv world := RequestsUnique world.db ∧ ∀ ending ∈ world.endings,
    ending.submission.Ends ending.found ending.created world.db ending.result
  rely thread before after := Persists before.db after.db ∧
    after.found thread = before.found thread ∧ after.created thread = before.created thread
  guar thread before after := Persists before.db after.db ∧ ∀ other, thread ≠ other →
    after.found other = before.found other ∧ after.created other = before.created other
  rely_refl _ _ := ⟨persists_refl _, rfl, rfl⟩
  rely_trans _ _ _ _ hfirst hsecond :=
    ⟨hfirst.1.trans hsecond.1, hsecond.2.1.trans hfirst.2.1, hsecond.2.2.trans hfirst.2.2⟩
  guar_rely _ other _ _ hne hguar := ⟨hguar.1, hguar.2 other hne⟩

section Rules

variable {hasher : Hasher} {thread : Nat} {world : SubmitWorld}

theorem record_db (world : SubmitWorld) (thread : Nat) (answered : Bool) (after : Database)
    (call : RunCall) (reply : call.Reply) :
    (world.record thread answered after call reply).db = after := by
  cases call <;> rfl

theorem record_endings (world : SubmitWorld) (thread : Nat) (answered : Bool) (after : Database)
    (call : RunCall) (reply : call.Reply) :
    (world.record thread answered after call reply).endings = world.endings := by
  cases call <;> rfl

theorem record_others (world : SubmitWorld) {thread other : Nat} (hne : thread ≠ other)
    (answered : Bool) (after : Database) (call : RunCall) (reply : call.Reply) :
    (world.record thread answered after call reply).found other = world.found other ∧
      (world.record thread answered after call reply).created other = world.created other := by
  cases answered <;> cases call <;>
    simp [SubmitWorld.record, Function.update_of_ne (Ne.symm hne)]

/-- The world after a committed call. -/
theorem inv_record {reading : Reading} {after : Database} {call : RunCall} {reply : call.Reply}
    (answered : Bool) (hinv : (submitProtocol hasher).inv world)
    (hok : call.perform hasher world.db reading = .ok (reply, after))
    (hkeeps : keepsSubmission world.db (.run call) = true) :
    (submitProtocol hasher).inv (world.record thread answered after call reply) ∧
      (submitProtocol hasher).guar thread world
        (world.record thread answered after call reply) := by
  have hpersists := persists_perform hok hkeeps
  refine ⟨⟨?_, ?_⟩, ?_, ?_⟩
  · rw [record_db]
    exact requestsUnique_perform hinv.1 hok
  · rw [record_endings, record_db]
    intro ending hmem
    exact (hinv.2 ending hmem).persists hpersists
  · rw [record_db]
    exact hpersists
  · intro other hne
    exact record_others world hne answered after call reply

/-- One store call: it raises with or without having committed, or returns. -/
theorem wp_storeCall {call : RunCall} {post : Except SubmitError call.Reply → SubmitWorld → Prop}
    (hkeeps : ∀ db, keepsSubmission db (.run call) = true)
    (hraised : ∀ before failure, (submitProtocol hasher).rely thread world before →
      ∀ later, (submitProtocol hasher).rely thread before later →
        post (.error (.failure failure)) later)
    (hlost : ∀ before reading reply after message,
      (submitProtocol hasher).rely thread world before →
      call.perform hasher before.db reading = .ok (reply, after) →
      ∀ later, (submitProtocol hasher).rely thread
          (before.record thread false after call reply) later →
        post (.error (.failure (.storage message))) later)
    (hreturned : ∀ before reading reply after, (submitProtocol hasher).rely thread world before →
      (submitProtocol hasher).inv before →
      call.perform hasher before.db reading = .ok (reply, after) →
      ∀ later, (submitProtocol hasher).rely thread
          (before.record thread true after call reply) later →
        post (.ok reply) later) :
    (storeCall call).wp (submitProtocol hasher) thread post world := by
  refine Program.wp_ask fun before answer after hrely hinv hstep ↦ ?_
  obtain ⟨response, hperform⟩ := hstep
  cases response with
  | store reading fault =>
    have hpair : before.performStore hasher thread call reading fault = (answer, after) :=
      Option.some.inj hperform
    have hself : (submitProtocol hasher).guar thread before before :=
      ⟨persists_refl _, fun _ _ ↦ ⟨rfl, rfl⟩⟩
    unfold SubmitWorld.performStore at hpair
    split at hpair
    · obtain ⟨rfl, rfl⟩ := Prod.mk.inj hpair
      exact ⟨hinv, hself, fun later hlater _ ↦ hraised before _ hrely later hlater⟩
    · split at hpair
      · obtain ⟨rfl, rfl⟩ := Prod.mk.inj hpair
        exact ⟨hinv, hself, fun later hlater _ ↦ hraised before _ hrely later hlater⟩
      · next reply db hok =>
        have hnext (answered : Bool) :
            (submitProtocol hasher).inv (before.record thread answered db call reply) ∧
              (submitProtocol hasher).guar thread before
                (before.record thread answered db call reply) :=
          inv_record answered hinv hok (hkeeps _)
        split at hpair
        · obtain ⟨rfl, rfl⟩ := Prod.mk.inj hpair
          exact ⟨(hnext false).1, (hnext false).2, fun later hlater _ ↦
            hlost before reading reply db _ hrely hok later hlater⟩
        · obtain ⟨rfl, rfl⟩ := Prod.mk.inj hpair
          exact ⟨(hnext true).1, (hnext true).2, fun later hlater _ ↦
            hreturned before reading reply db hrely hinv hok later hlater⟩
  | projected projection => cases hperform
  | incomplete message => cases hperform
  | failed failure => cases hperform
  | noted => cases hperform

/-- What a lookup leaves behind. -/
def Looked (thread : Nat) (world : SubmitWorld) (tenantId key : String)
    (result : Except SubmitError (Option RunRecord)) (later : SubmitWorld) : Prop :=
  later.created thread = world.created thread ∧
    match result with
    | .error error => (∃ failure, error = .failure failure) ∧
      later.found thread = world.found thread
    | .ok reply => later.found thread = (world.found thread).or (some reply.isSome) ∧
      ∀ record, reply = some record → Describes later.db record ∧ record.tenantId = tenantId ∧
        record.clientRequestId = some key

theorem wp_findByClientRequest (tenantId key : String) :
    (findByClientRequest tenantId key).wp (submitProtocol hasher) thread
      (Looked thread world tenantId key) world := by
  refine wp_storeCall (fun _ ↦ rfl) ?_ ?_ ?_
  · intro before failure hbefore later hlater
    exact ⟨hlater.2.2.trans hbefore.2.2, ⟨failure, rfl⟩, hlater.2.1.trans hbefore.2.1⟩
  · intro before reading reply after message hbefore _ later hlater
    exact ⟨hlater.2.2.trans hbefore.2.2, ⟨_, rfl⟩, hlater.2.1.trans hbefore.2.1⟩
  · intro before reading reply after hbefore hinv hok later hlater
    refine ⟨hlater.2.2.trans hbefore.2.2, ?_, fun record hrecord ↦ ?_⟩
    · have hfound := hlater.2.1
      simp only [SubmitWorld.record, if_true, Function.update_self] at hfound
      rw [hfound, hbefore.2.1]
    · have hread : reads before.db (.ok (getRunByClientRequestId before.db tenantId key)) =
          .ok (reply, after) := hok
      obtain ⟨hreply, rfl⟩ := Prod.mk.inj (Except.ok.inj hread)
      rw [← hreply, getRunByClientRequestId_eq_some_iff hinv.1] at hrecord
      obtain ⟨runId, row, hfind, htenant, hclient, rfl⟩ := hrecord
      exact ⟨(describes_rowToRun hfind).persists hlater.1, htenant, hclient⟩

/-- What the manager's part of a submission leaves behind: its record describes the Run of the
request, and is the submitted one if this submitter created it. -/
structure Obtained (thread : Nat) (world : SubmitWorld) (run record : RunRecord)
    (later : SubmitWorld) : Prop where
  describes : Describes later.db record
  tenant : record.tenantId = run.tenantId
  client : ∀ key, clientKey run.clientRequestId = some key → record.clientRequestId = some key
  own : later.created thread ≠ none → record = run

/-- The same for any result; a lookup that was answered before stays the first one. -/
def Submits (thread : Nat) (world : SubmitWorld) (run : RunRecord)
    (result : Except SubmitError RunRecord) (later : SubmitWorld) : Prop :=
  (∀ flag, world.found thread = some flag → later.found thread = some flag) ∧
    match result with
    | .error error => ∃ failure, error = .failure failure
    | .ok record => Obtained thread world run record later

theorem Looked.found_kept {tenantId key : String} {result : Except SubmitError (Option RunRecord)}
    {later : SubmitWorld} (hlooked : Looked thread world tenantId key result later) {flag : Bool}
    (hflag : world.found thread = some flag) : later.found thread = some flag := by
  cases result with
  | error error => exact hlooked.2.2.trans hflag
  | ok reply =>
    rw [hlooked.2.1, hflag]
    rfl

theorem Submits.persists {run : RunRecord} {result : Except SubmitError RunRecord}
    {later last : SubmitWorld} (hsubmits : Submits thread world run result later)
    (hrely : (submitProtocol hasher).rely thread later last) :
    Submits thread world run result last := by
  refine ⟨fun flag hflag ↦ hrely.2.1.trans (hsubmits.1 flag hflag), ?_⟩
  cases result with
  | error error => exact hsubmits.2
  | ok record =>
    obtain ⟨hdescribes, htenant, hclient, hown⟩ := hsubmits.2
    refine ⟨hdescribes.persists hrely.1, htenant, hclient, fun hcreated ↦ hown ?_⟩
    rwa [hrely.2.2] at hcreated

theorem clientKey_eq_some {clientRequestId : Option String} {key : String}
    (hkey : clientKey clientRequestId = some key) : clientRequestId = some key :=
  (Option.filter_eq_some_iff.1 hkey).1

/-- The Run that a lookup found in place of the own one. -/
theorem obtained_of_looked {run record : RunRecord} {key : String} {start later : SubmitWorld}
    (hnone : start.created thread = none) (hkey : clientKey run.clientRequestId = some key)
    (hlooked : Looked thread start run.tenantId key (.ok (some record)) later) :
    Obtained thread world run record later := by
  obtain ⟨hdescribes, htenant, hclient⟩ := hlooked.2.2 record rfl
  refine ⟨hdescribes, htenant, fun other hother ↦ ?_, fun hcreated ↦ ?_⟩
  · rw [← Option.some.inj (hkey.symm.trans hother)]
    exact hclient
  · exact absurd (hlooked.1.trans hnone) hcreated

theorem wp_findAfterConflict {run : RunRecord} {error : SubmitError} {start : SubmitWorld}
    (hfailure : ∃ failure, error = .failure failure)
    (hfound : ∀ flag, world.found thread = some flag → start.found thread = some flag)
    (hnone : start.created thread = none ∨ error.isIntegrityError = false) :
    (findAfterConflict run error).wp (submitProtocol hasher) thread
      (Submits thread world run) start := by
  have hraise (before : SubmitWorld)
      (hbefore : ∀ flag, world.found thread = some flag → before.found thread = some flag) :
      (Program.raise error : Submitting RunRecord).wp (submitProtocol hasher) thread
        (Submits thread world run) before :=
    Program.wp_raise fun later hlater _ ↦
      ⟨fun flag hflag ↦ hlater.2.1.trans (hbefore flag hflag), hfailure⟩
  unfold findAfterConflict
  split_ifs with hintegrity
  · have hnone : start.created thread = none := by
      rcases hnone with hnone | hother
      · exact hnone
      · rw [hintegrity] at hother
        cases hother
    cases hkey : clientKey run.clientRequestId with
    | none => exact hraise start hfound
    | some key =>
      refine Program.wp_seq _ (wp_findByClientRequest run.tenantId key) ?_ ?_
      · intro reply later _ hlooked
        have hkept : ∀ flag, world.found thread = some flag → later.found thread = some flag :=
          fun flag hflag ↦ hlooked.found_kept (hfound flag hflag)
        cases reply with
        | none => exact hraise later hkept
        | some existing =>
          refine Program.wp_done fun last hlast _ ↦ ?_
          have hsubmits : Submits thread world run (.ok existing) later :=
            ⟨hkept, obtained_of_looked hnone hkey hlooked⟩
          exact hsubmits.persists hlast
      · intro raised later _ hlooked
        exact ⟨fun flag hflag ↦ hlooked.found_kept (hfound flag hflag), hlooked.2.1⟩
  · exact hraise start hfound

theorem wp_createOrFind {run : RunRecord} (subjectId : String) {start : SubmitWorld}
    (hfound : ∀ flag, world.found thread = some flag → start.found thread = some flag)
    (hnone : start.created thread = none) :
    (createOrFind run subjectId).wp (submitProtocol hasher) thread
      (Submits thread world run) start := by
  unfold createOrFind
  simp only [Program.tryCatch_eq_handle, Program.discard_eq_bind, Program.bind_eq_bind,
    Program.pure_eq_done, Program.bind_bind, Program.done_bind]
  refine Program.wp_handle (Program.wp_bind (wp_storeCall (fun _ ↦ rfl) ?_ ?_ ?_))
  · intro before failure hbefore later hlater
    refine wp_findAfterConflict ⟨failure, rfl⟩ (fun flag hflag ↦ ?_) (.inl ?_)
    · exact hlater.2.1.trans (hbefore.2.1.trans (hfound flag hflag))
    · exact hlater.2.2.trans (hbefore.2.2.trans hnone)
  · intro before reading reply after message hbefore _ later hlater
    refine wp_findAfterConflict ⟨.storage message, rfl⟩ (fun flag hflag ↦ ?_) (.inr rfl)
    exact hlater.2.1.trans (hbefore.2.1.trans (hfound flag hflag))
  · intro before reading reply after hbefore _ hok later hlater
    refine Program.wp_done fun last hlast _ ↦ ?_
    have hsubmits : Submits thread world run (.ok run) later :=
      ⟨fun flag hflag ↦ hlater.2.1.trans (hbefore.2.1.trans (hfound flag hflag)),
        (describes_created hok).persists hlater.1, rfl, fun _ ↦ clientKey_eq_some, fun _ ↦ rfl⟩
    exact hsubmits.persists hlast

/-- An exception of `RuntimeManager.submit`. -/
def FromManager (error : SubmitError) : Prop :=
  (∃ failure, error = .failure failure) ∨ error = .referencedRunNotFound

/-- The submitter's notes did not change. -/
def Unnoted (thread : Nat) (world later : SubmitWorld) : Prop :=
  later.found thread = world.found thread ∧ later.created thread = world.created thread

theorem wp_assertReferencedRunsVisible (tenantId : String) (runIds : List String)
    {start : SubmitWorld} (hstart : Unnoted thread world start) :
    (assertReferencedRunsVisible tenantId runIds).wp (submitProtocol hasher) thread
      (fun result later ↦ Unnoted thread world later ∧
        ∀ error, result = .error error → FromManager error) start := by
  have hkept (before later : SubmitWorld) (hbefore : Unnoted thread world before)
      (hlater : Unnoted thread before later) : Unnoted thread world later :=
    ⟨hlater.1.trans hbefore.1, hlater.2.trans hbefore.2⟩
  induction runIds generalizing start with
  | nil =>
    refine Program.wp_done fun later hlater _ ↦ ⟨hkept start later hstart hlater.2, ?_⟩
    intro error herror
    cases herror
  | cons runId rest ih =>
    refine Program.wp_bind (wp_storeCall (fun _ ↦ rfl) ?_ ?_ ?_)
    · intro before failure hbefore later hlater
      refine ⟨hkept before later (hkept start before hstart hbefore.2) hlater.2, ?_⟩
      intro error herror
      cases herror
      exact .inl ⟨failure, rfl⟩
    · intro before reading reply after message hbefore _ later hlater
      refine ⟨hkept before later (hkept start before hstart hbefore.2) hlater.2, ?_⟩
      intro error herror
      cases herror
      exact .inl ⟨_, rfl⟩
    · intro before reading reply after hbefore _ _ later hlater
      have hlast := hkept before later (hkept start before hstart hbefore.2) hlater.2
      cases reply with
      | none =>
        refine Program.wp_raise fun last hfinal _ ↦ ⟨hkept later last hlast hfinal.2, ?_⟩
        intro error herror
        cases herror
        exact .inr rfl
      | some record => exact ih hlast

/-- What `RuntimeManager.submit` leaves behind. -/
def ManagerEnds (manager : RuntimeManager) (request : RunCreateRequest) (context : TenantContext)
    (draw : Draw) (thread : Nat) (world : SubmitWorld) (result : Except SubmitError RunRecord)
    (later : SubmitWorld) : Prop :=
  (∀ flag, world.found thread = some flag → later.found thread = some flag) ∧
    match result with
    | .error error => FromManager error
    | .ok record => ∃ registration runtimeInput state,
      manager.registry request.agentId request.agentVersion = some registration ∧
      registration.parseInput request.input = .ok runtimeInput ∧
      Obtained thread world
        (submittedRecord registration request runtimeInput state context draw) record later

theorem Submits.managerEnds {manager : RuntimeManager} {request : RunCreateRequest}
    {context : TenantContext} {draw : Draw} {registration : RuntimeRegistration}
    {runtimeInput : Payload} {state : Option RuntimeState}
    {result : Except SubmitError RunRecord} {later : SubmitWorld}
    (hregistered : manager.registry request.agentId request.agentVersion = some registration)
    (hinput : registration.parseInput request.input = .ok runtimeInput)
    (hsubmits : Submits thread world
      (submittedRecord registration request runtimeInput state context draw) result later) :
    ManagerEnds manager request context draw thread world result later := by
  refine ⟨hsubmits.1, ?_⟩
  cases result with
  | error error => exact .inl hsubmits.2
  | ok record => exact ⟨registration, runtimeInput, state, hregistered, hinput, hsubmits.2⟩

theorem wp_submit {manager : RuntimeManager} {request : RunCreateRequest}
    {context : TenantContext} {draw : Draw} (hnone : world.created thread = none) :
    (submit manager request context draw).wp (submitProtocol hasher) thread
      (ManagerEnds manager request context draw thread world) world := by
  have hraise (error : SubmitError) (herror : FromManager error) (before : SubmitWorld)
      (hbefore : Unnoted thread world before) :
      (Program.raise error : Submitting RunRecord).wp (submitProtocol hasher) thread
        (ManagerEnds manager request context draw thread world) before :=
    Program.wp_raise fun later hlater _ ↦
      ⟨fun flag hflag ↦ hlater.2.1.trans (hbefore.1.trans hflag), herror⟩
  have hself : Unnoted thread world world := ⟨rfl, rfl⟩
  unfold submit
  cases hregistered : manager.registry request.agentId request.agentVersion with
  | none => exact hraise _ (.inl ⟨_, rfl⟩) world hself
  | some registration =>
    dsimp only
    cases hinput : registration.parseInput request.input with
    | error failure => exact hraise _ (.inl ⟨failure, rfl⟩) world hself
    | ok runtimeInput =>
      simp only [Except.mapError, ofExcept, Program.bind_eq_bind, Program.pure_eq_done,
        Program.done_bind]
      refine Program.wp_seq _ (wp_assertReferencedRunsVisible context.tenantId _ hself) ?_ ?_
      · intro _ later _ ⟨hlater, _⟩
        cases hstate : submittedState registration request with
        | error error =>
          refine hraise error ?_ later hlater
          unfold submittedState at hstate
          split at hstate
          · cases hstate
          · split at hstate
            · cases hstate
              exact .inl ⟨_, rfl⟩
            · split_ifs at hstate
              cases hstate
              exact .inl ⟨_, rfl⟩
        | ok state =>
          have hcreate (start : SubmitWorld)
              (hfound : ∀ flag, world.found thread = some flag → start.found thread = some flag)
              (hcreated : start.created thread = none) :
              (createOrFind (submittedRecord registration request runtimeInput state context draw)
                context.subjectId).wp (submitProtocol hasher) thread
                  (ManagerEnds manager request context draw thread world) start :=
            Program.wp_mono (wp_createOrFind context.subjectId hfound hcreated)
              fun result last _ hsubmits ↦ hsubmits.managerEnds hregistered hinput
          simp only [Program.done_bind]
          have hlaterNone := hlater.2.trans hnone
          have hlaterFound : ∀ flag, world.found thread = some flag →
              later.found thread = some flag := fun flag hflag ↦ hlater.1.trans hflag
          cases hkey : clientKey request.clientRequestId with
          | none =>
            exact hcreate later hlaterFound hlaterNone
          | some key =>
            refine Program.wp_seq _ (wp_findByClientRequest context.tenantId key) ?_ ?_
            · intro reply last _ hlooked
              have hkept : ∀ flag, world.found thread = some flag →
                  last.found thread = some flag :=
                fun flag hflag ↦ hlooked.found_kept (hlaterFound flag hflag)
              cases reply with
              | none => exact hcreate last hkept (hlooked.1.trans hlaterNone)
              | some existing =>
                refine Program.wp_done fun final hfinal _ ↦ ?_
                have hsubmits : Submits thread world
                    (submittedRecord registration request runtimeInput state context draw)
                    (.ok existing) last :=
                  ⟨hkept, obtained_of_looked hlaterNone hkey hlooked⟩
                exact (hsubmits.persists hfinal).managerEnds hregistered hinput
            · intro raised last _ hlooked
              exact ⟨fun flag hflag ↦ hlooked.found_kept (hlaterFound flag hflag),
                .inl hlooked.2.1⟩
      · intro error later _ ⟨hlater, herror⟩
        exact ⟨fun flag hflag ↦ hlater.1.trans hflag, herror error rfl⟩

/-! ### The gateway -/

variable {gateway : DurableActionGateway} {request : ActionCreateRequest} {context : TenantContext}

/-- How the gateway's part of a submission ends, with the notes of its submitter. -/
def GatewayEnds (gateway : DurableActionGateway) (request : ActionCreateRequest)
    (context : TenantContext) (thread : Nat) (result : Except SubmitError SubmittedAction)
    (later : SubmitWorld) : Prop :=
  ActionEnds gateway request context (later.found thread) (later.created thread) result later.db

theorem GatewayEnds.persists {result : Except SubmitError SubmittedAction}
    {later last : SubmitWorld} (hends : GatewayEnds gateway request context thread result later)
    (hrely : (submitProtocol hasher).rely thread later last) :
    GatewayEnds gateway request context thread result last := by
  unfold GatewayEnds at hends ⊢
  rw [hrely.2.1, hrely.2.2]
  exact hends.persists hrely.1

/-- The projection only reads: it returns a resource of the Run or raises. -/
theorem wp_project (run : RunRecord) {start : SubmitWorld} :
    (gateway.project run).wp (submitProtocol hasher) thread
      (fun result later ↦ (submitProtocol hasher).rely thread start later ∧
        match result with
        | .ok resource => resource.actionId = run.runId
        | .error error => (∃ message, error = .actionEvidenceIncomplete message) ∨
          ∃ failure, error = .failure failure) start := by
  have hraise (message : String) :
      (Program.raise (.actionEvidenceIncomplete message) : Submitting ActionResource).wp
        (submitProtocol hasher) thread
        (fun result later ↦ (submitProtocol hasher).rely thread start later ∧
          match result with
          | .ok resource => resource.actionId = run.runId
          | .error error => (∃ message, error = .actionEvidenceIncomplete message) ∨
            ∃ failure, error = .failure failure) start :=
    Program.wp_raise fun later hlater _ ↦ ⟨hlater, .inl ⟨message, rfl⟩⟩
  unfold DurableActionGateway.project
  split_ifs
  · exact hraise _
  · cases gateway.persistedActionInput run with
    | none => exact hraise _
    | some input =>
      dsimp only
      split_ifs
      · exact hraise _
      · refine Program.wp_bind (Program.wp_ask fun before answer after hbefore hinv hstep ↦ ?_)
        obtain ⟨response, hperform⟩ := hstep
        have hself : (submitProtocol hasher).guar thread before before :=
          ⟨persists_refl _, fun _ _ ↦ ⟨rfl, rfl⟩⟩
        cases response with
        | store reading fault => cases hperform
        | noted => cases hperform
        | projected projection =>
          obtain ⟨rfl, rfl⟩ := Prod.mk.inj (Option.some.inj hperform)
          refine ⟨hinv, hself, fun later hlater _ ↦ Program.wp_done fun last hlast _ ↦ ?_⟩
          have hrely := (submitProtocol hasher).rely_trans _ _ _ _ hbefore hlater
          exact ⟨(submitProtocol hasher).rely_trans _ _ _ _ hrely hlast, rfl⟩
        | incomplete message =>
          obtain ⟨rfl, rfl⟩ := Prod.mk.inj (Option.some.inj hperform)
          refine ⟨hinv, hself, fun later hlater _ ↦ ⟨?_, .inl ⟨message, rfl⟩⟩⟩
          exact (submitProtocol hasher).rely_trans _ _ _ _ hbefore hlater
        | failed failure =>
          obtain ⟨rfl, rfl⟩ := Prod.mk.inj (Option.some.inj hperform)
          refine ⟨hinv, hself, fun later hlater _ ↦ ⟨?_, .inr ⟨failure, rfl⟩⟩⟩
          exact (submitProtocol hasher).rely_trans _ _ _ _ hbefore hlater

/-- A record that the gateway compares with its request. -/
structure Comparable (gateway : DurableActionGateway) (request : ActionCreateRequest)
    (context : TenantContext) (thread : Nat) (flag : Bool) (record : RunRecord)
    (world : SubmitWorld) : Prop where
  describes : Describes world.db record
  tenant : record.tenantId = context.tenantId
  client : record.clientRequestId =
    some (gateway.actionClientRequestId request.idempotencyKey)
  found : world.found thread = some flag
  own : world.created thread ≠ none →
    gateway.assertSameRequest record (toDurableActionInput request) = .ok ()

theorem Comparable.persists {flag : Bool} {record : RunRecord} {before later : SubmitWorld}
    (hcomparable : Comparable gateway request context thread flag record before)
    (hrely : (submitProtocol hasher).rely thread before later) :
    Comparable gateway request context thread flag record later where
  describes := hcomparable.describes.persists hrely.1
  tenant := hcomparable.tenant
  client := hcomparable.client
  found := hrely.2.1.trans hcomparable.found
  own hcreated := hcomparable.own (by rwa [hrely.2.2] at hcreated)

/-- The Run of the key, with the verdict of the comparison. -/
theorem Comparable.holdsKey {flag : Bool} {record : RunRecord}
    (hcomparable : Comparable gateway request context thread flag record world)
    (htype : request.actionType = webhookSend) :
    ∃ row, HoldsKey world.db context.tenantId
        (gateway.actionClientRequestId request.idempotencyKey) record.runId row ∧
      (Reused gateway request row ↔
        gateway.assertSameRequest record (toDurableActionInput request) =
          .error .idempotencyKeyReused) ∧
      ∀ message, Refuses gateway request row message ↔
        gateway.assertSameRequest record (toDurableActionInput request) =
          .error (.actionEvidenceIncomplete message) := by
  obtain ⟨row, hholds, hsame⟩ := hcomparable.describes.holdsKey hcomparable.client
  rw [hcomparable.tenant] at hholds
  refine ⟨row, hholds, ?_, fun message ↦ ?_⟩
  · unfold Reused
    rw [assertSameRequest_congr gateway hsame]
    exact or_iff_right (not_not.2 htype)
  · unfold Refuses
    rw [assertSameRequest_congr gateway hsame]
    exact and_iff_right htype

/-- What `_assert_same_request` can say. -/
theorem assertSameRequest_cases (record : RunRecord) (expected : DurableActionInput) :
    gateway.assertSameRequest record expected = .ok () ∨
      gateway.assertSameRequest record expected = .error .idempotencyKeyReused ∨
      ∃ message, gateway.assertSameRequest record expected =
        .error (.actionEvidenceIncomplete message) := by
  unfold DurableActionGateway.assertSameRequest
  split_ifs
  · exact .inr (.inr ⟨_, rfl⟩)
  · split
    · exact .inr (.inr ⟨_, rfl⟩)
    · split_ifs
      · exact .inr (.inl rfl)
      · exact .inl rfl

/-- The comparison and the report, as both branches of the gateway have them. -/
theorem wp_compare {flag : Bool} {record : RunRecord}
    (hcomparable : Comparable gateway request context thread flag record world)
    (htype : request.actionType = webhookSend) :
    ((ofExcept (gateway.assertSameRequest record (toDurableActionInput request))).bind
      fun _ ↦ (gateway.project record).bind fun resource ↦
        Program.done (⟨resource, flag⟩ : SubmittedAction)).wp
      (submitProtocol hasher) thread (GatewayEnds gateway request context thread) world := by
  rcases assertSameRequest_cases record (toDurableActionInput request) with
    hok | hreused | ⟨message, hincomplete⟩
  · rw [hok]
    have hends (result : Except SubmitError SubmittedAction) (later : SubmitWorld)
        (hrely : (submitProtocol hasher).rely thread world later)
        (hresult : result ≠ .error .idempotencyKeyReused)
        (hreturned : ∀ submitted, result = .ok submitted →
          submitted.resource.actionId = record.runId ∧ submitted.existed = flag) :
        GatewayEnds gateway request context thread result later := by
      have hlater := hcomparable.persists hrely
      obtain ⟨row, hholds, hverdict, hrefused⟩ := hlater.holdsKey htype
      have hsame : Tolerates gateway request row result := by
        refine ⟨fun hreused ↦ ?_, fun message hrefuses ↦ ?_⟩
        · rw [hverdict, hok] at hreused
          cases hreused
        · rw [hrefused, hok] at hrefuses
          cases hrefuses
      refine ⟨fun submitted hsubmitted ↦ ?_, fun herror ↦ absurd herror hresult, fun _ _ ↦
        ⟨record.runId, row, hholds, hsame⟩⟩
      obtain ⟨hid, hflag⟩ := hreturned submitted hsubmitted
      refine ⟨⟨row, hid ▸ hholds, hsame⟩, ?_⟩
      rw [hlater.found, hflag, Option.some.injEq]
    simp only [ofExcept, Program.pure_eq_done, Program.done_bind]
    refine Program.wp_seq _ (wp_project record) ?_ ?_
    · intro resource later _ ⟨hrely, hid⟩
      refine Program.wp_done fun last hlast _ ↦ ?_
      refine hends _ last ((submitProtocol hasher).rely_trans _ _ _ _ hrely hlast) nofun ?_
      intro submitted hsubmitted
      obtain rfl := Except.ok.inj hsubmitted
      exact ⟨hid, rfl⟩
    · intro error later _ ⟨hrely, herror⟩
      refine hends _ later hrely ?_ nofun
      rcases herror with ⟨message, rfl⟩ | ⟨failure, rfl⟩
      · exact nofun
      · exact nofun
  · rw [hreused]
    refine Program.wp_raise fun later hlater _ ↦ ?_
    have hkept := hcomparable.persists hlater
    obtain ⟨row, hholds, hverdict, -⟩ := hkept.holdsKey htype
    refine ⟨nofun, fun _ ↦ ⟨?_, record.runId, row, hholds, hverdict.2 hreused⟩, fun _ hne ↦
      absurd rfl hne⟩
    by_contra hcreated
    have hown := hkept.own hcreated
    rw [hreused] at hown
    cases hown
  · rw [hincomplete]
    refine Program.wp_raise fun later hlater _ ↦ ?_
    obtain ⟨row, hholds, hverdict, hrefused⟩ := (hcomparable.persists hlater).holdsKey htype
    refine ⟨nofun, nofun, fun _ _ ↦ ⟨record.runId, row, hholds, fun hreused ↦ ?_,
      fun other hrefuses ↦ ?_⟩⟩
    · rw [hverdict, hincomplete] at hreused
      cases hreused
    · rw [hrefused, hincomplete] at hrefuses
      rw [Except.error.inj hrefuses]

/-- The reserved request id is not empty. -/
theorem clientKey_action (gateway : DurableActionGateway) (key : String) :
    clientKey (some (gateway.actionClientRequestId key)) =
      some (gateway.actionClientRequestId key) := by
  refine Option.filter_eq_some_iff.2 ⟨rfl, ?_⟩
  rw [Bool.not_eq_true', ← Bool.not_eq_true, String.isEmpty_iff]
  unfold DurableActionGateway.actionClientRequestId
  rw [String.append_eq_empty_iff]
  rintro ⟨hearlier, -⟩
  exact absurd hearlier (by decide)

/-- The Run that a gateway's own submission created has the gateway's input. -/
theorem assertSameRequest_own (hvalid : request.Valid gateway.acceptsPayload)
    {registration : RuntimeRegistration} {runtimeInput : Payload} {state : Option RuntimeState}
    {draw : Draw}
    (hregistered : gateway.manager.registry actionAgentId actionAgentVersion = some registration)
    (hinput : registration.parseInput (toDurableActionInput request).dump = .ok runtimeInput) :
    gateway.assertSameRequest
      (submittedRecord registration (gateway.runRequest request context) runtimeInput state context
        draw) (toDurableActionInput request) = .ok () := by
  obtain ⟨hdomain, hschema, hparse⟩ := gateway.registered registration hregistered
  rw [hparse, validate_dump hvalid] at hinput
  obtain rfl := Except.ok.inj hinput
  have haction : isActionRun (submittedRecord registration (gateway.runRequest request context)
      (toDurableActionInput request).dump state context draw) = true := by
    simp [isActionRun, submittedRecord, submittedRun, DurableActionGateway.runRequest, hdomain,
      hschema]
  have hpersisted : gateway.persistedActionInput (submittedRecord registration
      (gateway.runRequest request context) (toDurableActionInput request).dump state context
      draw) = some (toDurableActionInput request) := validate_dump hvalid
  simp [DurableActionGateway.assertSameRequest, haction, hpersisted]

theorem wp_submitNew (hvalid : request.Valid gateway.acceptsPayload) {draw : Draw}
    (hfound : world.found thread = some false) (hnone : world.created thread = none) :
    (gateway.submitNew request context draw).wp (submitProtocol hasher) thread
      (GatewayEnds gateway request context thread) world := by
  have hfails (error : SubmitError) (later : SubmitWorld)
      (hlater : later.found thread = some false) (hreused : error ≠ .idempotencyKeyReused)
      (hincomplete : ∀ message, error ≠ .actionEvidenceIncomplete message) :
      GatewayEnds gateway request context thread (.error error) later := by
    refine ⟨nofun, fun herror ↦ absurd (Except.error.inj herror) hreused, fun hwhen _ ↦ ?_⟩
    rcases hwhen with ⟨message, hmessage⟩ | htrue
    · exact absurd (Except.error.inj hmessage) (hincomplete message)
    · rw [hlater] at htrue
      cases htrue
  unfold DurableActionGateway.submitNew
  split_ifs with htype hdestination
  · exact Program.wp_raise fun later hlater _ ↦
      hfails _ later (hlater.2.1.trans hfound) nofun nofun
  · exact Program.wp_raise fun later hlater _ ↦
      hfails _ later (hlater.2.1.trans hfound) nofun nofun
  · refine Program.wp_seq _ (wp_submit hnone) ?_ ?_
    · rintro record later _ ⟨hkept, registration, runtimeInput, state, hregistered, hinput,
        hobtained⟩
      refine wp_compare ⟨hobtained.describes, hobtained.tenant, ?_, hkept false hfound, ?_⟩
        (not_not.1 htype)
      · exact hobtained.client _ (clientKey_action gateway request.idempotencyKey)
      · intro hcreated
        rw [hobtained.own hcreated]
        exact assertSameRequest_own hvalid hregistered hinput
    · intro error later _ ⟨hkept, herror⟩
      rcases herror with ⟨failure, rfl⟩ | rfl
      · exact hfails _ later (hkept false hfound) nofun nofun
      · exact hfails _ later (hkept false hfound) nofun nofun

theorem wp_submitFound {existing : RunRecord}
    (hcomparable : Comparable gateway request context thread true existing world)
    (hnone : world.created thread = none) :
    (gateway.submitFound request existing).wp (submitProtocol hasher) thread
      (GatewayEnds gateway request context thread) world := by
  unfold DurableActionGateway.submitFound
  split_ifs with htype
  · refine Program.wp_raise fun later hlater _ ↦ ?_
    have hkept := hcomparable.persists hlater
    obtain ⟨row, hholds, -⟩ := hkept.describes.holdsKey hkept.client
    rw [hkept.tenant] at hholds
    exact ⟨nofun, fun _ ↦ ⟨hlater.2.2.trans hnone, existing.runId, row, hholds, .inl htype⟩,
      fun _ hne ↦ absurd rfl hne⟩
  · exact wp_compare hcomparable (not_not.1 htype)

theorem wp_submitAction (hvalid : request.Valid gateway.acceptsPayload) {draw : Draw}
    (hfound : world.found thread = none) (hnone : world.created thread = none) :
    (gateway.submitAction request context draw).wp (submitProtocol hasher) thread
      (GatewayEnds gateway request context thread) world := by
  refine Program.wp_seq _ (wp_findByClientRequest _ _) ?_ ?_
  · intro reply later _ hlooked
    have hnote : later.found thread = some reply.isSome := by
      rw [hlooked.2.1, hfound]
      rfl
    have hcreated := hlooked.1.trans hnone
    cases reply with
    | none => exact wp_submitNew hvalid hnote hcreated
    | some existing =>
      obtain ⟨hdescribes, htenant, hclient⟩ := hlooked.2.2 existing rfl
      exact wp_submitFound ⟨hdescribes, htenant, hclient, hnote, fun hsome ↦
        absurd hcreated hsome⟩ hcreated
  · intro error later _ ⟨hcreated, ⟨failure, hfailure⟩, hnote⟩
    subst hfailure
    refine ⟨nofun, nofun, fun hwhen _ ↦ ?_⟩
    rcases hwhen with ⟨message, hmessage⟩ | htrue
    · cases hmessage
    · rw [hnote, hfound] at htrue
      cases htrue

/-! ### Whole runs -/

theorem wp_code {submission : Submission} (hfound : world.found thread = none)
    (hnone : world.created thread = none) :
    submission.code.wp (submitProtocol hasher) thread
      (fun result later ↦
        submission.Ends (later.found thread) (later.created thread) later.db result) world := by
  cases submission with
  | run manager request context draw =>
    refine Program.wp_seq _ (wp_submit hnone) ?_ ?_
    · rintro record later _ ⟨-, registration, runtimeInput, state, -, -, hobtained⟩
      refine Program.wp_done fun last hlast _ reply key hreply hkey ↦ ?_
      obtain rfl := Except.ok.inj hreply
      have hclient := hobtained.client key hkey
      obtain ⟨row, hholds, -⟩ := (hobtained.describes.persists hlast.1).holdsKey hclient
      rw [hobtained.tenant] at hholds
      exact ⟨record, row, rfl, hholds⟩
    · intro error later _ _ reply key hreply
      cases hreply
  | action gateway request hvalid context draw =>
    refine Program.wp_seq _ (wp_submitAction hvalid hfound hnone) ?_ ?_
    · intro submitted later _ hends
      exact Program.wp_done fun last hlast _ ↦ ⟨.ok submitted, rfl, hends.persists hlast⟩
    · intro error later _ hends
      exact ⟨.error error, rfl, hends⟩

theorem wp_program {submission : Submission} (hfound : world.found thread = none)
    (hnone : world.created thread = none) :
    submission.program.wp (submitProtocol hasher) thread (fun _ _ ↦ True) world := by
  refine Program.wp_try _ (wp_code hfound hnone) fun result later _ hends ↦
    Program.wp_ask fun before answer after hrely hinv hstep ↦ ?_
  obtain ⟨response, hperform⟩ := hstep
  cases response with
  | noted =>
    obtain ⟨rfl, rfl⟩ := Prod.mk.inj (Option.some.inj hperform)
    refine ⟨⟨hinv.1, fun ending hmem ↦ ?_⟩, ⟨persists_refl _, fun _ _ ↦ ⟨rfl, rfl⟩⟩,
      fun _ _ _ ↦ trivial⟩
    rcases List.mem_append.1 hmem with hearlier | hnew
    · exact hinv.2 ending hearlier
    · obtain rfl := List.mem_singleton.1 hnew
      have hkept := hends.persists hrely.1
      rw [← hrely.2.1, ← hrely.2.2] at hkept
      exact hkept
  | store reading fault => cases hperform
  | projected projection => cases hperform
  | incomplete message => cases hperform
  | failed failure => cases hperform

end Rules

/-- Every submitter may run on, and those to come have no notes. -/
structure SubmitSound (hasher : Hasher) (system : SubmitSystem) : Prop where
  crew : Program.Sound (submitProtocol hasher) system.threads system.world
  unused : ∀ thread, system.started ≤ thread → system.threads thread = none ∧
    system.world.found thread = none ∧ system.world.created thread = none

theorem submitSound_init (hasher : Hasher) : SubmitSound hasher SubmitSystem.init where
  crew := by
    refine ⟨⟨requestsUnique_empty, ?_⟩, ?_⟩
    · intro ending hmem
      cases hmem
    · intro thread program hprogram
      cases hprogram
  unused _ _ := ⟨rfl, rfl, rfl⟩

/-- One event keeps the crew sound and the Runs in place. -/
theorem SubmitSound.next {hasher : Hasher} {system : SubmitSystem}
    (hsound : SubmitSound hasher system) (label : SubmitLabel) :
    SubmitSound hasher (system.next hasher label) ∧
      Persists system.world.db (system.next hasher label).world.db := by
  cases label with
  | start submission =>
    obtain ⟨-, hfound, hcreated⟩ := hsound.unused system.started le_rfl
    refine ⟨⟨hsound.crew.add (wp_program hfound hcreated), fun thread hthread ↦ ?_⟩,
      persists_refl _⟩
    have hne : thread ≠ system.started := by
      rintro rfl
      exact absurd hthread (Nat.not_succ_le_self _)
    obtain ⟨hnone, hnotes⟩ := hsound.unused thread (Nat.le_of_succ_le hthread)
    exact ⟨by simpa [SubmitSystem.next, Function.update_of_ne hne] using hnone, hnotes⟩
  | crash thread =>
    refine ⟨⟨hsound.crew.remove, fun other hother ↦ ?_⟩, persists_refl _⟩
    obtain ⟨hnone, hnotes⟩ := hsound.unused other hother
    refine ⟨?_, hnotes⟩
    by_cases heq : other = thread
    · simp [SubmitSystem.next, heq]
    · simpa [SubmitSystem.next, Function.update_of_ne heq] using hnone
  | other request =>
    simp only [SubmitSystem.next]
    split_ifs with hkeeps
    · have hpersists : Persists system.world.db (request.apply hasher system.world.db) :=
        persists_apply hkeeps
      refine ⟨⟨hsound.crew.outside ⟨requestsUnique_apply hsound.crew.1.1, fun ending hmem ↦ ?_⟩
        fun thread ↦ ⟨hpersists, rfl, rfl⟩, hsound.unused⟩, hpersists⟩
      exact (hsound.crew.1.2 ending hmem).persists hpersists
    · exact ⟨hsound, persists_refl _⟩
  | step thread response =>
    simp only [SubmitSystem.next, SubmitSystem.step]
    split
    · next op hscope next hprogram =>
      split
      · next answer world hperform =>
        have hstep : (submitProtocol hasher).step thread system.world op answer world :=
          ⟨response, hperform⟩
        have hself := (submitProtocol hasher).rely_refl thread system.world
        obtain ⟨-, hguar, -⟩ :=
          hsound.crew.2 thread _ hprogram system.world hself hsound.crew.1 answer world hstep
        refine ⟨⟨hsound.crew.step hprogram hstep, fun other hother ↦ ?_⟩, hguar.1⟩
        obtain ⟨hnone, hfound, hcreated⟩ := hsound.unused other hother
        have hne : thread ≠ other := by
          rintro rfl
          rw [hnone] at hprogram
          cases hprogram
        obtain ⟨hsameFound, hsameCreated⟩ := hguar.2 other hne
        refine ⟨?_, hsameFound.trans hfound, hsameCreated.trans hcreated⟩
        simpa [Function.update_of_ne (Ne.symm hne)] using hnone
      · exact ⟨hsound, persists_refl _⟩
    · exact ⟨hsound, persists_refl _⟩

theorem submitSound_run (hasher : Hasher) (labels : List SubmitLabel) :
    SubmitSound hasher ((submitMachine hasher).run SubmitSystem.init labels) :=
  (submitMachine hasher).invariant_run (SubmitSound hasher)
    (fun _ label hsound _ ↦ (hsound.next label).1) (submitSound_init hasher)
    ((submitMachine hasher).admits_true _ _)

theorem persists_run (hasher : Hasher) (labels more : List SubmitLabel) :
    Persists ((submitMachine hasher).run SubmitSystem.init labels).world.db
      ((submitMachine hasher).run SubmitSystem.init (labels ++ more)).world.db := by
  rw [Machine.run_append]
  exact (submitMachine hasher).stable_run (SubmitSound hasher)
    (fun before after ↦ Persists before.world.db after.world.db) (fun _ ↦ persists_refl _)
    (fun _ _ _ hfirst hsecond ↦ hfirst.trans hsecond)
    (fun _ label hsound _ ↦ (hsound.next label).1) (fun _ label hsound _ ↦ (hsound.next label).2)
    (submitSound_run hasher labels) ((submitMachine hasher).admits_true _ _)

/-! ### The comparison in terms of the request -/

/-- The Run persisted another Action than the request asks for: another type, key, destination or
payload, where the order of object keys does not count. -/
def Conflicts (gateway : DurableActionGateway) (request : ActionCreateRequest) (row : RunRow) :
    Prop :=
  request.actionType ≠ webhookSend ∨
    isActionRun (rowToRun "" row) = true ∧
      ∃ persisted, DurableActionInput.validate gateway.acceptsPayload row.input = some persisted ∧
        (persisted.idempotencyKey ≠ request.idempotencyKey ∨
          persisted.destination ≠ request.destination ∨
          Json.sortKeys (.obj persisted.payload) ≠ Json.sortKeys (.obj request.payload))

theorem actionFingerprint_eq_iff {gateway : DurableActionGateway}
    (hinjective : Function.Injective gateway.sha256) (input other : DurableActionInput) :
    gateway.actionFingerprint input = gateway.actionFingerprint other ↔
      input.destination = other.destination ∧
        Json.sortKeys (.obj input.payload) = Json.sortKeys (.obj other.payload) := by
  have hsorted (value : DurableActionInput) : gateway.actionFingerprint value =
      gateway.sha256 (.obj [("action_type", .str webhookSend), ("contract", .str actionContract),
        ("destination", .str value.destination),
        ("input", .obj [("payload", Json.sortKeys (.obj value.payload))])]) := by
    simp [DurableActionGateway.actionFingerprint, Json.sortKeys, Json.sortKeysFields,
      Json.insertField]
  rw [hsorted, hsorted, hinjective.eq_iff]
  simp

theorem reused_iff_conflicts {gateway : DurableActionGateway}
    (hinjective : Function.Injective gateway.sha256) (request : ActionCreateRequest)
    (row : RunRow) : Reused gateway request row ↔ Conflicts gateway request row := by
  unfold Reused Conflicts
  refine or_congr_right ?_
  unfold DurableActionGateway.assertSameRequest
  by_cases haction : isActionRun (rowToRun "" row) = true
  · cases hpersisted : DurableActionInput.validate gateway.acceptsPayload row.input with
    | none =>
      have hnone : gateway.persistedActionInput (rowToRun "" row) = none := hpersisted
      simp [haction, hnone]
    | some persisted =>
      have hsome : gateway.persistedActionInput (rowToRun "" row) = some persisted := hpersisted
      simp [haction, hsome, actionFingerprint_eq_iff hinjective, toDurableActionInput,
        imp_iff_not_or]
  · simp [haction]

/-- The submission got as far as the Run of its key. -/
def Ending.Compared (ending : Ending) : Prop :=
  ending.found = some true ∨ (∃ reply, ending.result = .ok reply) ∨
    ending.result = .error .idempotencyKeyReused ∨
    ∃ message, ending.result = .error (.actionEvidenceIncomplete message)

/-- What holds of a gateway's submission that ended, given the Run of its key. -/
structure ActionSettled (gateway : DurableActionGateway) (request : ActionCreateRequest)
    (context : TenantContext) (db : Database) (ending : Ending) : Prop where
  /-- It returns the Run of the key; `existed` says what its first lookup found. -/
  returned : ∀ reply, ending.result = .ok reply → ∃ submitted row, reply = .action submitted ∧
    HoldsKey db context.tenantId (gateway.actionClientRequestId request.idempotencyKey)
      submitted.resource.actionId row ∧
    (submitted.existed = true ↔ ending.found = some true)
  /-- It reports a reused key exactly when the Run persisted another Action. -/
  reused : ending.Compared →
    (∃ runId row, HoldsKey db context.tenantId
      (gateway.actionClientRequestId request.idempotencyKey) runId row) ∧
    ∀ runId row, HoldsKey db context.tenantId
        (gateway.actionClientRequestId request.idempotencyKey) runId row →
      (ending.result = .error .idempotencyKeyReused ↔ Conflicts gateway request row)
  /-- It refuses to compare the request with a Run that is no Action or whose input is invalid. -/
  refused : ending.Compared → request.actionType = webhookSend → ∀ runId row,
    HoldsKey db context.tenantId
        (gateway.actionClientRequestId request.idempotencyKey) runId row →
      (isActionRun (rowToRun "" row) = false →
        ending.result = .error (.actionEvidenceIncomplete
          "Reserved Action namespace is owned by a non-Action Run")) ∧
      (isActionRun (rowToRun "" row) = true →
        DurableActionInput.validate gateway.acceptsPayload row.input = none →
          ending.result = .error (.actionEvidenceIncomplete "Persisted Action input is invalid"))
  /-- The submission that created the Run does not conflict with itself. -/
  own : ending.created ≠ none → ending.result ≠ .error .idempotencyKeyReused

/-- What a submission that got as far as the Run of its key says of that Run. -/
theorem ActionEnds.verdict {gateway : DurableActionGateway} {request : ActionCreateRequest}
    {context : TenantContext} {db : Database} {ending : Ending}
    {inner : Except SubmitError SubmittedAction}
    (hends : ActionEnds gateway request context ending.found ending.created inner db)
    (hresult : ending.result = Except.map SubmitReply.action inner) (hcompared : ending.Compared) :
    ∃ runId row, HoldsKey db context.tenantId
        (gateway.actionClientRequestId request.idempotencyKey) runId row ∧
      (ending.result = .error .idempotencyKeyReused ↔ Reused gateway request row) ∧
      ∀ message, Refuses gateway request row message →
        ending.result = .error (.actionEvidenceIncomplete message) := by
  have hincomplete (row : RunRow) (htolerates : Tolerates gateway request row inner)
      (message : String) (hrefuses : Refuses gateway request row message) :
      ending.result = .error (.actionEvidenceIncomplete message) := by
    rw [hresult, htolerates.2 message hrefuses]
    rfl
  cases inner with
  | ok submitted =>
    obtain ⟨⟨row, hholds, hsame⟩, -⟩ := hends.returned submitted rfl
    refine ⟨_, row, hholds, ?_, hincomplete row hsame⟩
    rw [hresult]
    exact ⟨fun hreused ↦ (by cases hreused), fun hreused ↦ absurd hreused hsame.1⟩
  | error error =>
    have herror : ending.result = .error error := hresult
    by_cases hreused : error = .idempotencyKeyReused
    · subst hreused
      obtain ⟨-, runId, row, hholds, hconflict⟩ := hends.reused rfl
      exact ⟨runId, row, hholds, ⟨fun _ ↦ hconflict, fun _ ↦ herror⟩, fun message hrefuses ↦
        absurd hconflict hrefuses.not_reused⟩
    · have hnot : ending.result ≠ .error .idempotencyKeyReused := by
        rw [herror]
        exact fun heq ↦ hreused (Except.error.inj heq)
      have hwhen : (∃ message, (.error error : Except SubmitError SubmittedAction) =
          .error (.actionEvidenceIncomplete message)) ∨ ending.found = some true := by
        rcases hcompared with hfound | ⟨reply, hreply⟩ | hkey | ⟨message, hmessage⟩
        · exact .inr hfound
        · rw [herror] at hreply
          cases hreply
        · exact absurd hkey hnot
        · rw [herror] at hmessage
          exact .inl ⟨message, by rw [Except.error.inj hmessage]⟩
      obtain ⟨runId, row, hholds, hsame⟩ :=
        hends.compared hwhen fun heq ↦ hreused (Except.error.inj heq)
      exact ⟨runId, row, hholds, ⟨fun hkey ↦ absurd hkey hnot, fun hconflict ↦
        absurd hconflict hsame.1⟩, hincomplete row hsame⟩

theorem refuses_of_foreign {gateway : DurableActionGateway} {request : ActionCreateRequest}
    {row : RunRow} (htype : request.actionType = webhookSend)
    (hforeign : isActionRun (rowToRun "" row) = false) :
    Refuses gateway request row "Reserved Action namespace is owned by a non-Action Run" := by
  refine ⟨htype, ?_⟩
  unfold DurableActionGateway.assertSameRequest
  rw [hforeign]
  rfl

theorem refuses_of_invalid {gateway : DurableActionGateway} {request : ActionCreateRequest}
    {row : RunRow} (htype : request.actionType = webhookSend)
    (haction : isActionRun (rowToRun "" row) = true)
    (hinvalid : DurableActionInput.validate gateway.acceptsPayload row.input = none) :
    Refuses gateway request row "Persisted Action input is invalid" := by
  have hnone : gateway.persistedActionInput (rowToRun "" row) = none := hinvalid
  refine ⟨htype, ?_⟩
  unfold DurableActionGateway.assertSameRequest
  rw [haction, hnone]
  rfl

theorem ActionEnds.settled {gateway : DurableActionGateway} {request : ActionCreateRequest}
    {context : TenantContext} {db : Database} {ending : Ending}
    {inner : Except SubmitError SubmittedAction}
    (hends : ActionEnds gateway request context ending.found ending.created inner db)
    (hresult : ending.result = Except.map SubmitReply.action inner)
    (hinjective : Function.Injective gateway.sha256) (hunique : RequestsUnique db) :
    ActionSettled gateway request context db ending where
  returned reply hreply := by
    rw [hresult] at hreply
    cases inner with
    | error error => cases hreply
    | ok submitted =>
      obtain rfl := Except.ok.inj hreply
      obtain ⟨⟨row, hholds, -⟩, hflag⟩ := hends.returned submitted rfl
      exact ⟨submitted, row, rfl, hholds, hflag⟩
  reused hcompared := by
    obtain ⟨runId, row, hholds, hiff, -⟩ := hends.verdict hresult hcompared
    rw [reused_iff_conflicts hinjective] at hiff
    refine ⟨⟨runId, row, hholds⟩, fun other otherRow hother ↦ ?_⟩
    obtain ⟨-, rfl⟩ := hholds.unique hunique hother
    exact hiff
  refused hcompared htype other otherRow hother := by
    obtain ⟨runId, row, hholds, -, hincomplete⟩ := hends.verdict hresult hcompared
    obtain ⟨-, rfl⟩ := hholds.unique hunique hother
    constructor
    · exact fun hforeign ↦ hincomplete _ (refuses_of_foreign htype hforeign)
    · exact fun haction hinvalid ↦ hincomplete _ (refuses_of_invalid htype haction hinvalid)
  own hcreated hreused := by
    rw [hresult] at hreused
    cases inner with
    | ok submitted => cases hreused
    | error error =>
      obtain rfl := Except.error.inj hreused
      exact hcreated (hends.reused rfl).1

/-- Submission idempotency. Over any interleaving of submissions with each other, with crashes,
storage exceptions and the rest of the runtime: a client request id of a tenant never gets a second
Run, every submission that returns does so with that Run, and a gateway's submission that reached
the Run of its key reports a reused key exactly when that Run persisted another Action, and refuses
a key whose Run is no Action. -/
theorem submissions_are_idempotent (hasher : Hasher) (labels more : List SubmitLabel) :
    let db := ((submitMachine hasher).run SubmitSystem.init labels).world.db
    let later := ((submitMachine hasher).run SubmitSystem.init (labels ++ more)).world.db
    (∀ tenantId key first firstRow second secondRow,
      HoldsKey db tenantId key first firstRow → HoldsKey later tenantId key second secondRow →
      first = second) ∧
    ∀ ending ∈ ((submitMachine hasher).run SubmitSystem.init labels).world.endings,
      (∀ manager request context draw key reply,
        ending.submission = .run manager request context draw →
        clientKey request.clientRequestId = some key → ending.result = .ok reply →
        ∃ record row, reply = .run record ∧ HoldsKey db context.tenantId key record.runId row) ∧
      ∀ gateway request hvalid context draw,
        ending.submission = .action gateway request hvalid context draw →
        Function.Injective gateway.sha256 → ActionSettled gateway request context db ending := by
  intro db later
  have hsound := (submitSound_run hasher labels).crew.1
  refine ⟨?_, fun ending hmem ↦ ⟨?_, ?_⟩⟩
  · intro tenantId key first firstRow second secondRow hfirst hsecond
    obtain ⟨row, hholds, -⟩ := hfirst.persists (persists_run hasher labels more)
    exact (hholds.unique (submitSound_run hasher (labels ++ more)).crew.1.1 hsecond).1
  · intro manager request context draw key reply hsubmission hkey hreply
    have hends := hsound.2 ending hmem
    rw [hsubmission] at hends
    exact hends reply key hreply hkey
  · intro gateway request hvalid context draw hsubmission hinjective
    have hends := hsound.2 ending hmem
    rw [hsubmission] at hends
    obtain ⟨inner, hresult, hinner⟩ := hends
    exact hinner.settled hresult hinjective hsound.1

/-- The registration of the Action agent. -/
def actionRegistration : RuntimeRegistration :=
  { sampleRegistration with
    domainId := actionDomainId
    schemaVersion := actionSchemaVersion
    parseInput := fun raw ↦
      match DurableActionInput.validate (fun _ ↦ true) raw with
      | some input => .ok input.dump
      | none => .error (.validation "DurableActionInput") }

def sampleGateway : DurableActionGateway where
  manager := ⟨fun _ _ ↦ some actionRegistration, fun failure ↦ failure.text⟩
  destinations := fun _ ↦ true
  sha256Text := id
  sha256 := Json.encode
  acceptsPayload := fun _ ↦ true
  registered := by
    intro registration hregistered
    obtain rfl := Option.some.inj hregistered
    exact ⟨rfl, rfl, fun _ ↦ rfl⟩

/-- A submission of one webhook Action. -/
def sampleAction (uuid : String) : Submission :=
  .action sampleGateway ⟨webhookSend, "billing", "key", []⟩ ⟨by decide, by decide, rfl⟩
    ⟨"acme", "ada", []⟩ ⟨uuid, "09:00", "09:00"⟩

/-- Two processes submit the same Action: both lookups of both find nothing, the first creates the
Run and the unique index stops the second. -/
def racingSubmissions : List SubmitLabel :=
  let store (thread : Nat) : SubmitLabel := .step thread (.store (sampleReading 0 "t") none)
  let project (thread : Nat) : SubmitLabel :=
    .step thread (.projected ⟨"queued", none, none, "09:00", none⟩)
  [.start (sampleAction "a"), .start (sampleAction "b"), store 0, store 1, store 0, store 1,
    store 0, store 1, store 1, project 0, project 1, .step 0 .noted, .step 1 .noted]

/-- The Action that a submission returned, and its flag. -/
def Ending.report (ending : Ending) : Option (String × Bool) :=
  match ending.result with
  | .ok (.action submitted) => some (submitted.resource.actionId, submitted.existed)
  | _ => none

/-- A Run of another agent takes the reserved request id, with an input that asks for another
destination, before the Action is submitted. -/
def foreignSubmissions : List SubmitLabel :=
  let store (thread : Nat) : SubmitLabel := .step thread (.store (sampleReading 0 "t") none)
  [.start (.run sampleManager ⟨"t0", "travel-agent", "0.3.0",
      (DurableActionInput.mk "payroll" "key" []).dump, none, some "action-request:v1:key"⟩
      ⟨"acme", "ada", []⟩ ⟨"c", "09:00", "09:00"⟩),
    store 0, store 0, .step 0 .noted, .start (sampleAction "a"), store 1, .step 1 .noted]

/-- The message of a refusal. -/
def Ending.refusal (ending : Ending) : Option String :=
  match ending.result with
  | .error (.actionEvidenceIncomplete message) => some message
  | _ => none

/-- Two submissions both report that the Action did not exist; and where a Run of another agent
holds the key, whose input names another destination, no reused key is reported. -/
theorem submissions_break_the_contract :
    ((submitMachine sampleHasher).run SubmitSystem.init racingSubmissions).world.endings.map
        Ending.report = [some ("run_a", false), some ("run_a", false)] ∧
      (((submitMachine sampleHasher).run SubmitSystem.init foreignSubmissions).world.db.runs.find
        "run_c").map (fun row ↦ (row.tenantId, row.clientRequestId, row.input.get? "destination")) =
          some ("acme", some (sampleGateway.actionClientRequestId "key"), some (.str "payroll")) ∧
      ((submitMachine sampleHasher).run SubmitSystem.init foreignSubmissions).world.endings.map
        Ending.refusal =
          [none, some "Reserved Action namespace is owned by a non-Action Run"] := by
  decide +kernel

end AgentRuntime.Gateway
