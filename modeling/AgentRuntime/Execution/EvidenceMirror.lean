import AgentRuntime.Execution.System
import AgentRuntime.Store.EventOrigins

/-!
# Evidence is mirrored once and completely

Attempts of any number of Runs call `EvidenceProjector` side by side, a stale one beside the one
that took its Run over, while the stores serve everyone else and any store call may raise before or
after it commits. Looking into a log and appending to it are separate transactions, so what keeps
the logs free of duplicates is the lease: an append only commits with the Run's current token, every
claim draws a fresh one, and so nobody else appended evidence of the Run since the attempt looked
(`ProjectorRely`).

`evidence_is_mirrored_once` states the result for every reachable state: no two recorded events of
the workflow log and no two mirrored events of a Run's log are the same piece of evidence, a
mirrored event repeats a workflow event that was there before it, and a call of `mirror` that
returned has left no earlier evidence behind.
-/

set_option autoImplicit false
set_option relaxedAutoImplicit false

namespace AgentRuntime.Execution

open Library Store

/-! ### The calls of the projector -/

/-- `ensure_run_evidence` as its callers use it: for the payload that `workflow_evidence` found. -/
def ensureRecorded (runId eventType evidenceId : String) (leaseToken : Option String) :
    Quiet Unit := do
  match ← workflowEvidence runId eventType evidenceId with
  | none => return
  | some payload => ensureRunEvidence runId eventType payload leaseToken

/-- The calls of the projector, for the types of evidence that the runtime records. -/
inductive ProjectorCall where
  | record (eventType evidenceId : String) (fields : Payload)
    (hrecorded : eventType ∈ mirroredEventTypes)
  | ensure (eventType evidenceId : String) (hrecorded : eventType ∈ mirroredEventTypes)
  | mirror

/-- The code of a call. -/
def ProjectorCall.program (context : RuntimeExecutionContext) : ProjectorCall → Quiet Unit
  | record eventType evidenceId fields _ =>
    recordEvidence context.runId eventType evidenceId fields context.leaseToken
  | ensure eventType evidenceId _ =>
    ensureRecorded context.runId eventType evidenceId context.leaseToken
  | mirror => mirrorEvidence context

/-- The context of a claim's attempt. -/
def attemptContext (claim : RunLeaseClaim) (authority : ExecutionAuthority) :
    RuntimeExecutionContext where
  runId := claim.run.runId
  threadId := claim.run.threadId
  recoveredAfterRestart := claim.recoveryReason.isSome
  authority := authority
  leaseToken := some claim.leaseToken

/-! ### Attempts over the stores -/

/-- The database, the lease tokens that were drawn, the claims that were handed out, and the Run
events that the current call of each attempt has appended. -/
structure ProjectorWorld where
  db : Database
  issued : List String
  claims : List RunLeaseClaim
  appended : Nat → List EventRow

namespace ProjectorWorld

/-- A transaction of an attempt commits. -/
def commit (world : ProjectorWorld) (attempt : Nat) (after : Database) : ProjectorWorld :=
  { world with
    db := after
    appended := Function.update world.appended attempt
      (world.appended attempt ++ after.runEvents.drop world.db.runEvents.length) }

/-- An attempt performs a store operation. -/
def performStore (hasher : Hasher) (world : ProjectorWorld) (attempt : Nat) (call : Call)
    (reading : Reading) (fault : Option StorageFault) :
    Except Failure call.Reply × ProjectorWorld :=
  match fault with
  | some (.before message) => (.error (.storage message), world)
  | _ =>
    match call.perform hasher world.db reading with
    | .error error => (.error (.store error), world)
    | .ok (reply, after) =>
      match fault with
      | some (.after message) => (.error (.storage message), world.commit attempt after)
      | _ => (.ok reply, world.commit attempt after)

/-- An attempt performs an operation of the projector. -/
def perform (hasher : Hasher) (world : ProjectorWorld) (attempt : Nat) (reading : Reading)
    (fault : Option StorageFault) : (op : Op) → Option (Except Failure op.Answer × ProjectorWorld)
  | .store call => some (world.performStore hasher attempt call reading fault)
  | _ => none

end ProjectorWorld

/-- A call in progress, with the workflow log as it was when the call started. -/
structure ActiveCall where
  call : ProjectorCall
  runId : String
  before : List EventRow
  rest : Quiet Unit

/-- A call that returned normally, with the Run events that it appended. -/
structure ReturnedCall where
  call : ProjectorCall
  runId : String
  before : List EventRow
  appended : List EventRow

/-- The attempts with what is left of their calls. -/
structure ProjectorSystem where
  world : ProjectorWorld
  active : Nat → Option ActiveCall
  returned : List ReturnedCall

/-- One event: an attempt calls the projector, it performs the next operation of its call, or
someone calls a store. An attempt that crashed makes no more steps. -/
inductive ProjectorLabel where
  | start (attempt : Nat) (authority : ExecutionAuthority) (call : ProjectorCall)
  | step (attempt : Nat) (reading : Reading) (fault : Option StorageFault)
  | request (request : Request)

/-- The claims that a call hands out. -/
def claimsOf : (call : Call) → call.Reply → List RunLeaseClaim
  | .run (.claimNextRun _ _ _), reply => (reply : Option RunLeaseClaim).toList
  | _, _ => []

namespace ProjectorSystem

/-- Empty stores without attempts. -/
def init : ProjectorSystem := ⟨⟨.empty, [], [], fun _ ↦ []⟩, fun _ ↦ none, []⟩

/-- An attempt that is not in a call starts one. -/
def start (system : ProjectorSystem) (attempt : Nat) (authority : ExecutionAuthority)
    (call : ProjectorCall) : ProjectorSystem :=
  match system.world.claims[attempt]?, system.active attempt with
  | some claim, none =>
    { system with
      world := { system.world with
        appended := Function.update system.world.appended attempt [] }
      active := Function.update system.active attempt (some
        ⟨call, claim.run.runId, system.world.db.workflowEvents,
          call.program (attemptContext claim authority)⟩) }
  | _, _ => system

/-- The system after an operation of an attempt, which ends its call or leaves a rest of it. -/
def proceed (system : ProjectorSystem) (attempt : Nat) (running : ActiveCall)
    (world : ProjectorWorld) : Quiet Unit → ProjectorSystem
  | .done _ =>
    { world := world
      active := Function.update system.active attempt none
      returned := system.returned ++
        [⟨running.call, running.runId, running.before, world.appended attempt⟩] }
  | .raise _ =>
    { system with world := world, active := Function.update system.active attempt none }
  | rest =>
    { system with
      world := world
      active := Function.update system.active attempt (some { running with rest := rest }) }

/-- An attempt performs the next operation of its call. -/
def step (hasher : Hasher) (system : ProjectorSystem) (attempt : Nat) (reading : Reading)
    (fault : Option StorageFault) : ProjectorSystem :=
  match system.active attempt with
  | none => system
  | some running =>
    match running.rest with
    | .call op _ next =>
      match system.world.perform hasher attempt reading fault op with
      | some (answer, world) => system.proceed attempt running world (next answer)
      | none => system
    | _ => system

/-- Someone calls a store; each claim starts an attempt. -/
def serve (hasher : Hasher) (system : ProjectorSystem) (request : Request) : ProjectorSystem :=
  let issued := system.world.issued ++ request.drawn
  match request.call.perform hasher system.world.db request.reading with
  | .error _ => { system with world := { system.world with issued := issued } }
  | .ok (reply, after) =>
    { system with
      world := { system.world with
        db := after
        issued := issued
        claims := system.world.claims ++ claimsOf request.call reply } }

/-- The system after one event. -/
def next (hasher : Hasher) (system : ProjectorSystem) : ProjectorLabel → ProjectorSystem
  | .start attempt authority call => system.start attempt authority call
  | .step attempt reading fault => system.step hasher attempt reading fault
  | .request request => system.serve hasher request

end ProjectorSystem

/-- The attempts and the stores, driven by events in any order. -/
def projectorMachine (hasher : Hasher) : Machine ProjectorSystem ProjectorLabel where
  init := ProjectorSystem.init
  next := ProjectorSystem.next hasher

/-- The request appends evidence. -/
def writesEvidence : Call → Bool
  | .workflow (.appendEvent _ eventType _ _) | .run (.appendAttemptEvent _ _ eventType _) =>
    isMirrored eventType
  | _ => false

/-- A claim draws a token that was never drawn before, and only the projector appends evidence. -/
def Orderly (system : ProjectorSystem) : ProjectorLabel → Prop
  | .request request => (∀ token ∈ request.drawn, token ∉ system.world.issued) ∧
      writesEvidence request.call = false
  | _ => True

instance Orderly.decidable (system : ProjectorSystem) :
    (label : ProjectorLabel) → Decidable (Orderly system label)
  | .request request => inferInstanceAs (Decidable ((∀ token ∈ request.drawn, _) ∧ _))
  | .start .. | .step .. => isTrue trivial

/-! ### Evidence in the logs -/

/-- The events of the types that the projector records. -/
def recordedEvents (events : List EventRow) : List EventRow :=
  events.filter fun event ↦ mirroredEventTypes.contains event.eventType

/-- The events of the types that are mirrored. -/
def mirroredEvents (events : List EventRow) : List EventRow :=
  events.filter fun event ↦ isMirrored event.eventType

/-- The events of one Run. -/
def ofRun (runId : String) (events : List EventRow) : List EventRow :=
  events.filter fun event ↦ event.runId == runId

theorem mem_recordedEvents {events : List EventRow} {event : EventRow} :
    event ∈ recordedEvents events ↔ event ∈ events ∧ event.eventType ∈ mirroredEventTypes := by
  rw [recordedEvents, List.mem_filter, List.contains_iff_mem]

theorem mem_mirroredEvents {events : List EventRow} {event : EventRow} :
    event ∈ mirroredEvents events ↔ event ∈ events ∧ isMirrored event.eventType = true :=
  List.mem_filter

theorem mem_ofRun {runId : String} {events : List EventRow} {event : EventRow} :
    event ∈ ofRun runId events ↔ event ∈ events ∧ event.runId = runId := by
  rw [ofRun, List.mem_filter, beq_iff_eq]

/-- A mirrored event is one of an action or one that the projector records. -/
theorem isMirrored_iff (eventType : String) :
    isMirrored eventType = true ↔
      isActionType eventType = true ∨ eventType ∈ mirroredEventTypes := by
  rw [isMirrored, Bool.or_eq_true, List.contains_iff_mem]
  rfl

theorem isMirrored_of_recorded {eventType : String} (hrecorded : eventType ∈ mirroredEventTypes) :
    isMirrored eventType = true :=
  (isMirrored_iff eventType).mpr (.inr hrecorded)

theorem recorded_not_action : ∀ eventType ∈ mirroredEventTypes, isActionType eventType = false := by
  decide

theorem runEventTypes_not_mirrored : ∀ eventType ∈ runEventTypes, isMirrored eventType = false := by
  decide

theorem ledgerEventTypes_not_mirrored :
    ∀ eventType ∈ ledgerEventTypes, isMirrored eventType = false := by
  decide

/-- The lookup of a text id compares texts. -/
theorem isEvidence_iff (payload : Payload) (id : String) :
    isEvidence payload (.str id) = true ↔ evidenceId payload = some id := by
  unfold isEvidence evidenceId Payload.getD
  cases payload.get? "evidence_id" with
  | none => simp [Json.pyEq]
  | some value =>
    cases value with
    | str text =>
      simp only [Option.getD_some, Json.pyEq, beq_iff_eq, Json.str.injEq, Option.some.injEq]
      exact eq_comm
    | null | bool | int | number | arr | obj => simp [Json.pyEq, Json.numeric]

/-- The same event in two logs, apart from its place and time. -/
def SameEvidence (event other : EventRow) : Prop :=
  event.runId = other.runId ∧ event.eventType = other.eventType ∧ event.payload = other.payload

theorem SameEvidence.key_eq {event other : EventRow} (hsame : SameEvidence event other) :
    evidenceKey event = evidenceKey other := by
  obtain ⟨hrun, htype, hpayload⟩ := hsame
  unfold evidenceKey
  rw [hrun, htype, hpayload]

/-! ### The invariant -/

/-- What every reachable state of the stores satisfies. -/
structure ProjectorInv (world : ProjectorWorld) : Prop where
  distinct : (world.claims.map RunLeaseClaim.leaseToken).Nodup
  drawn : ∀ claim ∈ world.claims, claim.leaseToken ∈ world.issued
  held : ∀ runId token, HoldsLease world.db runId token → token ∈ world.issued
  managed : ∀ claim ∈ world.claims, ∃ row, world.db.runs.find claim.run.runId = some row
  workflowSequences : ∀ event ∈ world.db.workflowEvents, 1 ≤ event.sequence
  runSequences : ∀ event ∈ world.db.runEvents, 1 ≤ event.sequence
  actions : ActionEvidence world.db
  recorded : ((recordedEvents world.db.workflowEvents).map evidenceKey).Nodup
  identified : ∀ event ∈ recordedEvents world.db.workflowEvents,
    ∃ id, evidenceId event.payload = some id
  mirrored : ((mirroredEvents world.db.runEvents).map evidenceKey).Nodup
  origin : ∀ event ∈ mirroredEvents world.db.runEvents,
    ∃ source ∈ world.db.workflowEvents, SameEvidence source event

theorem projectorInv_init : ProjectorInv ProjectorSystem.init.world where
  distinct := List.nodup_nil
  drawn claim hmem := by cases hmem
  held runId token hholds := by
    obtain ⟨row, hfind, -⟩ := hholds
    cases hfind
  managed claim hmem := by cases hmem
  workflowSequences event hmem := by cases hmem
  runSequences event hmem := by cases hmem
  actions := actionEvidence_empty
  recorded := List.nodup_nil
  identified event hmem := by cases hmem
  mirrored := List.nodup_nil
  origin event hmem := by cases hmem

/-- Every mirrored event of the workflow log carries an evidence id. -/
theorem ProjectorInv.evidenceId {world : ProjectorWorld} (hinv : ProjectorInv world)
    {event : EventRow} (hmem : event ∈ world.db.workflowEvents)
    (hmirrored : isMirrored event.eventType = true) :
    ∃ id, Store.evidenceId event.payload = some id := by
  rcases (isMirrored_iff _).mp hmirrored with haction | hrecorded
  · obtain ⟨-, -, id, -, hid, -⟩ := hinv.actions.owned event (List.mem_filter.mpr ⟨hmem, haction⟩)
    exact ⟨id, hid⟩
  · exact hinv.identified event (mem_recordedEvents.mpr ⟨hmem, hrecorded⟩)

/-- Distinct tokens belong to distinct attempts. -/
theorem attempt_of_token {claims : List RunLeaseClaim} {attempt other : Nat}
    {claim twin : RunLeaseClaim} (hdistinct : (claims.map RunLeaseClaim.leaseToken).Nodup)
    (hclaim : claims[attempt]? = some claim) (htwin : claims[other]? = some twin)
    (htoken : claim.leaseToken = twin.leaseToken) : attempt = other := by
  obtain ⟨hlt, -⟩ := List.getElem?_eq_some_iff.mp hclaim
  have hlength : attempt < (claims.map RunLeaseClaim.leaseToken).length := by
    simpa using hlt
  refine (List.getElem?_inj hlength hdistinct).mp ?_
  rw [List.getElem?_map, List.getElem?_map, hclaim, htwin, Option.map_some, Option.map_some, htoken]

/-- Two mirrored events of the workflow log with one key are one event. -/
theorem ProjectorInv.eq_of_key {world : ProjectorWorld} (hinv : ProjectorInv world)
    {event other : EventRow} (hmem : event ∈ world.db.workflowEvents)
    (hother : other ∈ world.db.workflowEvents) (hmirrored : isMirrored event.eventType = true)
    (hkey : evidenceKey event = evidenceKey other) : event = other := by
  have htype : event.eventType = other.eventType := congrArg (fun key ↦ key.2.1) hkey
  rcases (isMirrored_iff _).mp hmirrored with haction | hrecorded
  · exact List.inj_on_of_nodup_map hinv.actions.distinct (List.mem_filter.mpr ⟨hmem, haction⟩)
      (List.mem_filter.mpr ⟨hother, htype ▸ haction⟩) hkey
  · exact List.inj_on_of_nodup_map hinv.recorded (mem_recordedEvents.mpr ⟨hmem, hrecorded⟩)
      (mem_recordedEvents.mpr ⟨hother, htype ▸ hrecorded⟩) hkey

/-- Each attempt has a token of its own. -/
theorem ProjectorInv.attempt_eq {world : ProjectorWorld} (hinv : ProjectorInv world)
    {attempt other : Nat} {claim twin : RunLeaseClaim}
    (hclaim : world.claims[attempt]? = some claim) (htwin : world.claims[other]? = some twin)
    (htoken : claim.leaseToken = twin.leaseToken) : attempt = other :=
  attempt_of_token hinv.distinct hclaim htwin htoken

/-! ### What an attempt may rely on -/

/-- While the claim's token is current, nobody else wrote evidence of its Run. -/
structure Undivided (claim : RunLeaseClaim) (before after : ProjectorWorld) : Prop where
  held : HoldsLease before.db claim.run.runId claim.leaseToken
  records : ofRun claim.run.runId (recordedEvents after.db.workflowEvents) =
    ofRun claim.run.runId (recordedEvents before.db.workflowEvents)
  mirrored : ofRun claim.run.runId (mirroredEvents after.db.runEvents) =
    ofRun claim.run.runId (mirroredEvents before.db.runEvents)

/-- What the steps of the others can do to an attempt: the logs grow, and its Run's evidence only
while it has lost its lease. -/
structure ProjectorRely (attempt : Nat) (before after : ProjectorWorld) : Prop where
  claims : before.claims <+: after.claims
  workflowLog : before.db.workflowEvents <+: after.db.workflowEvents
  runLog : before.db.runEvents <+: after.db.runEvents
  appended : after.appended attempt = before.appended attempt
  undivided : ∀ claim, before.claims[attempt]? = some claim →
    HoldsLease after.db claim.run.runId claim.leaseToken → Undivided claim before after

theorem ProjectorRely.refl (attempt : Nat) (world : ProjectorWorld) :
    ProjectorRely attempt world world where
  claims := List.prefix_rfl
  workflowLog := List.prefix_rfl
  runLog := List.prefix_rfl
  appended := rfl
  undivided _ _ hholds := ⟨hholds, rfl, rfl⟩

/-- A claim keeps its number. -/
theorem prefix_keeps_claim {claims more : List RunLeaseClaim} {attempt : Nat}
    {claim : RunLeaseClaim}
    (hclaims : claims <+: more) (hclaim : claims[attempt]? = some claim) :
    more[attempt]? = some claim := by
  obtain ⟨rest, rfl⟩ := hclaims
  obtain ⟨hlt, -⟩ := List.getElem?_eq_some_iff.mp hclaim
  rw [List.getElem?_append_left hlt, hclaim]

theorem ProjectorRely.trans {attempt : Nat} {first second third : ProjectorWorld}
    (hfirst : ProjectorRely attempt first second) (hsecond : ProjectorRely attempt second third) :
    ProjectorRely attempt first third where
  claims := hfirst.claims.trans hsecond.claims
  workflowLog := hfirst.workflowLog.trans hsecond.workflowLog
  runLog := hfirst.runLog.trans hsecond.runLog
  appended := hsecond.appended.trans hfirst.appended
  undivided claim hclaim hholds := by
    have hlater := hsecond.undivided claim (prefix_keeps_claim hfirst.claims hclaim) hholds
    have hearlier := hfirst.undivided claim hclaim hlater.held
    exact ⟨hearlier.held, hlater.records.trans hearlier.records,
      hlater.mirrored.trans hearlier.mirrored⟩

/-- The protocol of the attempts: each promises the others what they rely on. -/
def projectorProtocol (hasher : Hasher) : Protocol Nat Op.Answer Failure ProjectorWorld where
  step attempt world op answer after :=
    ∃ reading fault, world.perform hasher attempt reading fault op = some (answer, after)
  inv := ProjectorInv
  rely := ProjectorRely
  guar attempt before after := ∀ other, other ≠ attempt → ProjectorRely other before after
  rely_refl := ProjectorRely.refl
  rely_trans _ _ _ _ := ProjectorRely.trans
  guar_rely _ other _ _ hne hguar := hguar other fun heq ↦ hne heq.symm

/-! ### Looks and appends -/

section Steps

variable {hasher : Hasher} {attempt : Nat} {claim : RunLeaseClaim} {start : ProjectorWorld}

/-- A store operation raises without a trace, or commits what the store returned. -/
theorem perform_cases {world after : ProjectorWorld} {call : Call}
    {answer : Except Failure call.Reply}
    (hstep : (projectorProtocol hasher).step attempt world (.store call) answer after) :
    ((∃ failure, answer = .error failure) ∧ after = world) ∨
      ∃ reading reply db, call.perform hasher world.db reading = .ok (reply, db) ∧
        after = world.commit attempt db ∧
          (answer = .ok reply ∨ ∃ failure, answer = .error failure) := by
  obtain ⟨reading, fault, hperform⟩ := hstep
  have hresult := Option.some.inj hperform
  unfold ProjectorWorld.performStore at hresult
  split at hresult
  · obtain ⟨rfl, rfl⟩ := Prod.mk.inj hresult
    exact .inl ⟨⟨_, rfl⟩, rfl⟩
  · cases hcall : call.perform hasher world.db reading with
    | error error =>
      rw [hcall] at hresult
      obtain ⟨rfl, rfl⟩ := Prod.mk.inj hresult
      exact .inl ⟨⟨_, rfl⟩, rfl⟩
    | ok result =>
      obtain ⟨reply, db⟩ := result
      rw [hcall] at hresult
      dsimp only at hresult
      split at hresult
      · obtain ⟨rfl, rfl⟩ := Prod.mk.inj hresult
        exact .inr ⟨reading, reply, db, hcall, rfl, .inr ⟨_, rfl⟩⟩
      · obtain ⟨rfl, rfl⟩ := Prod.mk.inj hresult
        exact .inr ⟨reading, reply, db, hcall, rfl, .inl rfl⟩

/-- A transaction that changes nothing. -/
theorem commit_same (world : ProjectorWorld) (attempt : Nat) :
    world.commit attempt world.db = world := by
  unfold ProjectorWorld.commit
  rw [List.drop_length, List.append_nil, Function.update_eq_self]

/-- A look at the database: what it returned was true at some moment, and the others went on. -/
theorem wp_look {call : Call} {hscope : Op.quiet (.store call) = true}
    {value : Database → call.Reply}
    {post : Except Failure call.Reply → ProjectorWorld → Prop}
    (hread : ∀ db reading, call.perform hasher db reading = .ok (value db, db))
    (hlook : ∀ seen later, ProjectorRely attempt start seen → ProjectorInv seen →
      ProjectorRely attempt seen later → ProjectorInv later → post (.ok (value seen.db)) later)
    (hraise : ∀ failure later, ProjectorRely attempt start later → ProjectorInv later →
      post (.error failure) later) :
    (Program.ask (Op.store call) hscope : Quiet call.Reply).wp
      (projectorProtocol hasher) attempt post
      start := by
  refine Program.wp_ask fun before answer after hbefore hinv hstep ↦ ?_
  have hself : (projectorProtocol hasher).guar attempt before before :=
    fun other _ ↦ ProjectorRely.refl other before
  rcases perform_cases hstep with ⟨⟨failure, rfl⟩, rfl⟩ | ⟨reading, reply, db, hcall, rfl, hanswer⟩
  · exact ⟨hinv, hself, fun later hlater hlaterInv ↦ hraise failure later (hbefore.trans hlater)
      hlaterInv⟩
  · rw [hread] at hcall
    obtain ⟨rfl, rfl⟩ := Prod.mk.inj (Except.ok.inj hcall)
    rw [commit_same]
    refine ⟨hinv, hself, fun later hlater hlaterInv ↦ ?_⟩
    rcases hanswer with rfl | ⟨failure, rfl⟩
    · exact hlook before later hbefore hinv hlater hlaterInv
    · exact hraise failure later (hbefore.trans hlater) hlaterInv

theorem recordedEvents_append {events : List EventRow} {event : EventRow}
    (hrecorded : event.eventType ∈ mirroredEventTypes) :
    recordedEvents (events ++ [event]) = recordedEvents events ++ [event] := by
  rw [recordedEvents, List.filter_append, List.filter_cons_of_pos, List.filter_nil]
  · rfl
  · exact List.contains_iff_mem.mpr hrecorded

theorem mirroredEvents_append {events : List EventRow} {event : EventRow}
    (hmirrored : isMirrored event.eventType = true) :
    mirroredEvents (events ++ [event]) = mirroredEvents events ++ [event] := by
  rw [mirroredEvents, List.filter_append, List.filter_cons_of_pos, List.filter_nil]
  · rfl
  · exact hmirrored

/-- An event of another Run. -/
theorem ofRun_append_of_ne {runId : String} {events : List EventRow} {event : EventRow}
    (hother : event.runId ≠ runId) : ofRun runId (events ++ [event]) = ofRun runId events := by
  rw [ofRun, List.filter_append, List.filter_cons_of_neg, List.filter_nil, List.append_nil]
  · rfl
  · simpa using hother

/-- The lease of another attempt is current only if it is the lease of another Run. -/
theorem ProjectorInv.runId_ne {world : ProjectorWorld} (hinv : ProjectorInv world)
    {other : Nat} {twin : RunLeaseClaim} (hclaim : world.claims[attempt]? = some claim)
    (htwin : world.claims[other]? = some twin) (hne : other ≠ attempt)
    (hheld : HoldsLease world.db claim.run.runId claim.leaseToken)
    (hholds : HoldsLease world.db twin.run.runId twin.leaseToken) :
    claim.run.runId ≠ twin.run.runId := by
  intro hrun
  rw [hrun] at hheld
  exact hne (hinv.attempt_eq htwin hclaim (hholds.unique hheld))

/-- What an accepted `append_event` of the current attempt did. -/
theorem appended_of_appendEvent {db after : Database} {reading : Reading}
    {runId eventType token : String} {payload : Payload} {reply : EventRow} {row : RunRow}
    (hrow : db.runs.find runId = some row)
    (hok : Store.appendEvent db reading runId eventType payload (some token) = .ok (reply, after)) :
    HoldsLease db runId token ∧
      after = appendWorkflowEvent db runId eventType payload (reading.utcNow 0) := by
  unfold Store.appendEvent at hok
  obtain ⟨hfenced, hok⟩ := fenced_eq_ok hok
  obtain ⟨current, hcurrent, hattempt⟩ := hfenced.holdsAttempt hrow
  obtain rfl := Option.some.inj hcurrent
  refine ⟨⟨row, hrow, ((holdsLease_iff _ _ _).mp hattempt.2).1⟩, ?_⟩
  split at hok
  · cases hok
  · exact (Prod.mk.inj (Except.ok.inj hok)).2.symm

/-- What an accepted `append_attempt_event` did. -/
theorem appended_of_appendAttemptEvent {db after : Database} {reading : Reading}
    {runId eventType token : String} {payload : Payload} {reply : EventRow}
    (hok : Store.appendAttemptEvent db reading runId (some token) eventType payload =
      .ok (reply, after)) :
    HoldsLease db runId token ∧
      after = Store.appendRunEvent db runId eventType payload (reading.utcNow 0) := by
  unfold Store.appendAttemptEvent at hok
  split at hok
  · cases hok
  · next hassert =>
    refine ⟨?_, (Prod.mk.inj (Except.ok.inj hok)).2.symm⟩
    unfold assertCurrentRunLease at hassert
    dsimp only at hassert
    cases hcurrent : currentAttempt db runId token reading.nowMs with
    | none =>
      rw [hcurrent] at hassert
      cases hassert
    | some row =>
      obtain ⟨hfind, -, hlease⟩ := (currentAttempt_eq_some_iff _ _ _ _ _).mp hcurrent
      exact ⟨row, hfind, ((holdsLease_iff _ _ _).mp hlease).1⟩

/-- The attempt records a piece of evidence that the log does not hold. -/
theorem ProjectorInv.record {world : ProjectorWorld} (hinv : ProjectorInv world)
    {eventType id : String} {payload : Payload} {createdAt : String}
    (hrecorded : eventType ∈ mirroredEventTypes) (hid : Store.evidenceId payload = some id)
    (habsent : ∀ event ∈ ofRun claim.run.runId (recordedEvents world.db.workflowEvents),
      event.eventType = eventType → Store.evidenceId event.payload ≠ some id) :
    ProjectorInv (world.commit attempt
      (appendWorkflowEvent world.db claim.run.runId eventType payload createdAt)) := by
  have hadded : recordedEvents (world.db.workflowEvents ++
      [newEvent world.db.workflowEvents claim.run.runId eventType payload createdAt]) =
        recordedEvents world.db.workflowEvents ++
          [newEvent world.db.workflowEvents claim.run.runId eventType payload createdAt] :=
    recordedEvents_append hrecorded
  constructor
  case distinct => exact hinv.distinct
  case drawn => exact hinv.drawn
  case held => exact hinv.held
  case managed => exact hinv.managed
  case workflowSequences =>
    intro event hmem
    rcases List.mem_append.mp hmem with hold | hnew
    · exact hinv.workflowSequences event hold
    · rw [List.mem_singleton.mp hnew]
      exact one_le_nextSequence _ _
  case runSequences => exact hinv.runSequences
  case actions => exact hinv.actions.note rfl rfl (recorded_not_action _ hrecorded)
  case recorded =>
    change ((recordedEvents (_ ++ [_])).map evidenceKey).Nodup
    rw [hadded, List.map_append, List.map_singleton, ← List.concat_eq_append, List.nodup_concat]
    refine ⟨fun hmem ↦ ?_, hinv.recorded⟩
    obtain ⟨event, hevent, hkey⟩ := List.mem_map.mp hmem
    obtain ⟨hrun, hrest⟩ := Prod.mk.inj hkey
    obtain ⟨htype, hids⟩ := Prod.mk.inj hrest
    exact habsent event (mem_ofRun.mpr ⟨hevent, hrun⟩) htype (hids.trans hid)
  case identified =>
    intro event hmem
    change event ∈ recordedEvents (_ ++ [_]) at hmem
    rw [hadded] at hmem
    rcases List.mem_append.mp hmem with hold | hnew
    · exact hinv.identified event hold
    · rw [List.mem_singleton.mp hnew]
      exact ⟨id, hid⟩
  case mirrored => exact hinv.mirrored
  case origin =>
    intro event hmem
    obtain ⟨source, hsource, hsame⟩ := hinv.origin event hmem
    exact ⟨source, List.mem_append_left _ hsource, hsame⟩

/-- The others notice nothing of what the holder of a lease records. -/
theorem rely_of_record {world : ProjectorWorld} (hinv : ProjectorInv world)
    (hclaim : world.claims[attempt]? = some claim)
    (hheld : HoldsLease world.db claim.run.runId claim.leaseToken) {eventType : String}
    {payload : Payload} {createdAt : String} (hrecorded : eventType ∈ mirroredEventTypes)
    {other : Nat} (hne : other ≠ attempt) :
    ProjectorRely other world (world.commit attempt
      (appendWorkflowEvent world.db claim.run.runId eventType payload createdAt)) where
  claims := List.prefix_rfl
  workflowLog := List.prefix_append _ _
  runLog := List.prefix_rfl
  appended := Function.update_of_ne hne _ _
  undivided twin htwin hholds := by
    have hrun := hinv.runId_ne hclaim htwin hne hheld hholds
    refine ⟨hholds, ?_, rfl⟩
    change ofRun _ (recordedEvents (_ ++ [_])) = _
    rw [recordedEvents_append hrecorded, ofRun_append_of_ne hrun]

/-- The attempt mirrors a piece of evidence that the Run's log does not hold. -/
theorem ProjectorInv.mirror {world : ProjectorWorld} (hinv : ProjectorInv world)
    {eventType id : String} {payload : Payload} {createdAt : String}
    (hmirrored : isMirrored eventType = true) (hid : Store.evidenceId payload = some id)
    (hsource : ∃ source ∈ world.db.workflowEvents, source.runId = claim.run.runId ∧
      source.eventType = eventType ∧ source.payload = payload)
    (habsent : ∀ event ∈ ofRun claim.run.runId (mirroredEvents world.db.runEvents),
      event.eventType = eventType → Store.evidenceId event.payload ≠ some id) :
    ProjectorInv (world.commit attempt
      (Store.appendRunEvent world.db claim.run.runId eventType payload createdAt)) := by
  have hadded : mirroredEvents (world.db.runEvents ++
      [newEvent world.db.runEvents claim.run.runId eventType payload createdAt]) =
        mirroredEvents world.db.runEvents ++
          [newEvent world.db.runEvents claim.run.runId eventType payload createdAt] :=
    mirroredEvents_append hmirrored
  constructor
  case distinct => exact hinv.distinct
  case drawn => exact hinv.drawn
  case held => exact hinv.held
  case managed => exact hinv.managed
  case workflowSequences => exact hinv.workflowSequences
  case runSequences =>
    intro event hmem
    rcases List.mem_append.mp hmem with hold | hnew
    · exact hinv.runSequences event hold
    · rw [List.mem_singleton.mp hnew]
      exact one_le_nextSequence _ _
  case actions => exact hinv.actions.quiet rfl (List.append_nil _).symm (by simp)
  case recorded => exact hinv.recorded
  case identified => exact hinv.identified
  case mirrored =>
    change ((mirroredEvents (_ ++ [_])).map evidenceKey).Nodup
    rw [hadded, List.map_append, List.map_singleton, ← List.concat_eq_append, List.nodup_concat]
    refine ⟨fun hmem ↦ ?_, hinv.mirrored⟩
    obtain ⟨event, hevent, hkey⟩ := List.mem_map.mp hmem
    obtain ⟨hrun, hrest⟩ := Prod.mk.inj hkey
    obtain ⟨htype, hids⟩ := Prod.mk.inj hrest
    exact habsent event (mem_ofRun.mpr ⟨hevent, hrun⟩) htype (hids.trans hid)
  case origin =>
    intro event hmem
    change event ∈ mirroredEvents (_ ++ [_]) at hmem
    rw [hadded] at hmem
    rcases List.mem_append.mp hmem with hold | hnew
    · exact hinv.origin event hold
    · rw [List.mem_singleton.mp hnew]
      exact hsource

/-- The others notice nothing of what the holder of a lease mirrors. -/
theorem rely_of_mirror {world : ProjectorWorld} (hinv : ProjectorInv world)
    (hclaim : world.claims[attempt]? = some claim)
    (hheld : HoldsLease world.db claim.run.runId claim.leaseToken) {eventType : String}
    {payload : Payload} {createdAt : String} (hmirrored : isMirrored eventType = true)
    {other : Nat} (hne : other ≠ attempt) :
    ProjectorRely other world (world.commit attempt
      (Store.appendRunEvent world.db claim.run.runId eventType payload createdAt)) where
  claims := List.prefix_rfl
  workflowLog := List.prefix_rfl
  runLog := List.prefix_append _ _
  appended := Function.update_of_ne hne _ _
  undivided twin htwin hholds := by
    have hrun := hinv.runId_ne hclaim htwin hne hheld hholds
    refine ⟨hholds, rfl, ?_⟩
    change ofRun _ (mirroredEvents (_ ++ [_])) = _
    rw [mirroredEvents_append hmirrored, ofRun_append_of_ne hrun]

/-- As long as the lease is current, the workflow log does not hold the piece of evidence. -/
def Unrecorded (claim : RunLeaseClaim) (eventType id : String) (world : ProjectorWorld) : Prop :=
  HoldsLease world.db claim.run.runId claim.leaseToken →
    ∀ event ∈ ofRun claim.run.runId (recordedEvents world.db.workflowEvents),
      event.eventType = eventType → Store.evidenceId event.payload ≠ some id

/-- As long as the lease is current, the Run's log holds no evidence beyond an index. -/
def Indexed (claim : RunLeaseClaim) (index : List (String × String)) (world : ProjectorWorld) :
    Prop :=
  HoldsLease world.db claim.run.runId claim.leaseToken →
    ∀ event ∈ ofRun claim.run.runId (mirroredEvents world.db.runEvents), ∀ id,
      Store.evidenceId event.payload = some id → (event.eventType, id) ∈ index

/-- The workflow log holds the evidence. -/
def RecordedIn (world : ProjectorWorld) (runId eventType : String) (payload : Payload) : Prop :=
  ∃ source ∈ world.db.workflowEvents, source.runId = runId ∧ source.eventType = eventType ∧
    source.payload = payload

/-- The Run's log holds the evidence. -/
def MirroredIn (world : ProjectorWorld) (runId eventType : String) (payload : Payload) : Prop :=
  ∃ event ∈ world.db.runEvents, event.runId = runId ∧ event.eventType = eventType ∧
    event.payload = payload

variable {before later : ProjectorWorld}

theorem Unrecorded.stable {eventType id : String} (hclaim : before.claims[attempt]? = some claim)
    (habsent : Unrecorded claim eventType id before) (hrely : ProjectorRely attempt before later) :
    Unrecorded claim eventType id later := by
  intro hholds
  have hundivided := hrely.undivided claim hclaim hholds
  rw [hundivided.records]
  exact habsent hundivided.held

theorem Indexed.stable {index : List (String × String)}
    (hclaim : before.claims[attempt]? = some claim) (hindexed : Indexed claim index before)
    (hrely : ProjectorRely attempt before later) : Indexed claim index later := by
  intro hholds
  have hundivided := hrely.undivided claim hclaim hholds
  rw [hundivided.mirrored]
  exact hindexed hundivided.held

theorem RecordedIn.stable {runId eventType : String} {payload : Payload}
    (hrecorded : RecordedIn before runId eventType payload)
    (hrely : ProjectorRely attempt before later) : RecordedIn later runId eventType payload := by
  obtain ⟨source, hmem, hsource⟩ := hrecorded
  exact ⟨source, hrely.workflowLog.subset hmem, hsource⟩

theorem MirroredIn.stable {runId eventType : String} {payload : Payload}
    (hmirrored : MirroredIn before runId eventType payload)
    (hrely : ProjectorRely attempt before later) : MirroredIn later runId eventType payload := by
  obtain ⟨event, hmem, hevent⟩ := hmirrored
  exact ⟨event, hrely.runLog.subset hmem, hevent⟩

/-- The world after the attempt recorded a piece of evidence. -/
def ProjectorWorld.withRecord (world : ProjectorWorld) (attempt : Nat) (claim : RunLeaseClaim)
    (eventType : String) (payload : Payload) (createdAt : String) : ProjectorWorld :=
  world.commit attempt (appendWorkflowEvent world.db claim.run.runId eventType payload createdAt)

/-- The world after the attempt mirrored a piece of evidence. -/
def ProjectorWorld.withMirrored (world : ProjectorWorld) (attempt : Nat) (claim : RunLeaseClaim)
    (eventType : String) (payload : Payload) (createdAt : String) : ProjectorWorld :=
  world.commit attempt (Store.appendRunEvent world.db claim.run.runId eventType payload createdAt)

/-- The append of `record`, after a look that did not show the evidence. -/
theorem wp_appendEvent {eventType id : String} {payload : Payload}
    {post : Except Failure EventRow → ProjectorWorld → Prop}
    (hclaim : start.claims[attempt]? = some claim) (hrecorded : eventType ∈ mirroredEventTypes)
    (hid : Store.evidenceId payload = some id) (habsent : Unrecorded claim eventType id start)
    (hok : ∀ reply before createdAt later, ProjectorRely attempt start before →
      ProjectorRely attempt (before.withRecord attempt claim eventType payload createdAt) later →
      ProjectorInv later → post (.ok reply) later)
    (hraise : ∀ failure later, post (.error failure) later) :
    (WorkflowStore.appendEvent claim.run.runId eventType payload (some claim.leaseToken)).wp
      (projectorProtocol hasher) attempt post start := by
  refine Program.wp_ask fun before answer after hbefore hinv hstep ↦ ?_
  have hclaimed := prefix_keeps_claim hbefore.claims hclaim
  rcases perform_cases hstep with ⟨⟨failure, rfl⟩, rfl⟩ | ⟨reading, reply, db, hcall, rfl, hanswer⟩
  · exact ⟨hinv, fun other _ ↦ ProjectorRely.refl other after, fun later _ _ ↦ hraise failure later⟩
  · obtain ⟨row, hrow⟩ := ProjectorInv.managed hinv claim (List.mem_of_getElem? hclaimed)
    obtain ⟨hheld, rfl⟩ := appended_of_appendEvent hrow hcall
    have habsentBefore := habsent.stable hclaim hbefore hheld
    refine ⟨ProjectorInv.record hinv hrecorded hid habsentBefore,
      fun other hne ↦ rely_of_record hinv hclaimed hheld hrecorded hne,
        fun later hlater hlaterInv ↦ ?_⟩
    rcases hanswer with rfl | ⟨failure, rfl⟩
    · exact hok reply before (reading.utcNow 0) later hbefore hlater hlaterInv
    · exact hraise failure later

/-- The append to a Run's log, after a look that did not show the evidence. -/
theorem wp_appendRunEvent {eventType id : String} {payload : Payload}
    {index : List (String × String)}
    {post : Except Failure EventRow → ProjectorWorld → Prop}
    (hclaim : start.claims[attempt]? = some claim) (hmirrored : isMirrored eventType = true)
    (hid : Store.evidenceId payload = some id)
    (hsource : RecordedIn start claim.run.runId eventType payload)
    (hindexed : Indexed claim index start) (habsent : (eventType, id) ∉ index)
    (hok : ∀ reply before createdAt later, ProjectorRely attempt start before →
      ProjectorRely attempt (before.withMirrored attempt claim eventType payload createdAt) later →
      ProjectorInv later → post (.ok reply) later)
    (hraise : ∀ failure later, post (.error failure) later) :
    (appendRunEvent claim.run.runId eventType payload (some claim.leaseToken)).wp
      (projectorProtocol hasher) attempt post start := by
  refine Program.wp_ask fun before answer after hbefore hinv hstep ↦ ?_
  have hclaimed := prefix_keeps_claim hbefore.claims hclaim
  rcases perform_cases hstep with ⟨⟨failure, rfl⟩, rfl⟩ | ⟨reading, reply, db, hcall, rfl, hanswer⟩
  · exact ⟨hinv, fun other _ ↦ ProjectorRely.refl other after, fun later _ _ ↦ hraise failure later⟩
  · obtain ⟨hheld, rfl⟩ := appended_of_appendAttemptEvent hcall
    have hunmirrored : ∀ event ∈ ofRun claim.run.runId (mirroredEvents before.db.runEvents),
        event.eventType = eventType → Store.evidenceId event.payload ≠ some id := by
      intro event hmem htype hevent
      exact habsent (htype ▸ hindexed.stable hclaim hbefore hheld event hmem id hevent)
    refine ⟨ProjectorInv.mirror hinv hmirrored hid (hsource.stable hbefore) hunmirrored,
      fun other hne ↦ rely_of_mirror hinv hclaimed hheld hmirrored hne,
        fun later hlater hlaterInv ↦ ?_⟩
    rcases hanswer with rfl | ⟨failure, rfl⟩
    · exact hok reply before (reading.utcNow 0) later hbefore hlater hlaterInv
    · exact hraise failure later

/-! ### `record` and `ensure_run_evidence` -/

theorem mem_listEvents {world : ProjectorWorld} (hinv : ProjectorInv world) {runId : String}
    {event : EventRow} : event ∈ Store.listEvents world.db runId 0 ↔
      event ∈ world.db.workflowEvents ∧ event.runId = runId := by
  rw [Store.listEvents, List.mem_filter, Bool.and_eq_true, beq_iff_eq, decide_eq_true_eq]
  constructor
  · exact fun ⟨hmem, hrun, _⟩ ↦ ⟨hmem, hrun⟩
  · exact fun ⟨hmem, hrun⟩ ↦ ⟨hmem, hrun, hinv.workflowSequences event hmem⟩

theorem mem_listRunEvents {world : ProjectorWorld} (hinv : ProjectorInv world) {runId : String}
    {event : EventRow} : event ∈ listRunEvents world.db runId 0 ↔
      event ∈ world.db.runEvents ∧ event.runId = runId := by
  rw [listRunEvents, List.mem_filter, Bool.and_eq_true, beq_iff_eq, decide_eq_true_eq]
  constructor
  · exact fun ⟨hmem, hrun, _⟩ ↦ ⟨hmem, hrun⟩
  · exact fun ⟨hmem, hrun⟩ ↦ ⟨hmem, hrun, hinv.runSequences event hmem⟩

/-- What `workflow_evidence` tells its caller. -/
def WorkflowFound (claim : RunLeaseClaim) (eventType id : String) :
    Except Failure (Option Payload) → ProjectorWorld → Prop
  | .ok none, world => Unrecorded claim eventType id world
  | .ok (some payload), world => RecordedIn world claim.run.runId eventType payload ∧
      Store.evidenceId payload = some id
  | .error _, _ => True

theorem wp_workflowEvidence {eventType id : String} (hclaim : start.claims[attempt]? = some claim) :
    (workflowEvidence claim.run.runId eventType id).wp (projectorProtocol hasher) attempt
      (fun result later ↦ later.claims[attempt]? = some claim ∧
        WorkflowFound claim eventType id result later) start := by
  unfold workflowEvidence
  refine Program.wp_bind (wp_look (fun _ _ ↦ rfl) ?_ ?_)
  · intro seen later hseen hseenInv hlater _
    have hclaimed := prefix_keeps_claim hseen.claims hclaim
    refine Program.wp_done fun last hlast _ ↦ ?_
    have hrely := hlater.trans hlast
    refine ⟨prefix_keeps_claim hrely.claims hclaimed, ?_⟩
    cases hfind : (Store.listEvents seen.db claim.run.runId 0).find? fun event ↦
        event.eventType == eventType && isEvidence event.payload (.str id) with
    | none =>
      have habsent : Unrecorded claim eventType id seen := by
        intro _ event hmem htype hevent
        obtain ⟨hevents, hrun⟩ := mem_ofRun.mp hmem
        have hlisted := (mem_listEvents hseenInv).mpr ⟨(mem_recordedEvents.mp hevents).1, hrun⟩
        have hnot := List.find?_eq_none.mp hfind event hlisted
        rw [Bool.and_eq_true, beq_iff_eq, isEvidence_iff] at hnot
        exact hnot ⟨htype, hevent⟩
      exact habsent.stable hclaimed hrely
    | some event =>
      have hmatches := List.find?_some hfind
      rw [Bool.and_eq_true, beq_iff_eq, isEvidence_iff] at hmatches
      obtain ⟨hmem, hrun⟩ := (mem_listEvents hseenInv).mp (List.mem_of_find?_eq_some hfind)
      have hfound : RecordedIn seen claim.run.runId eventType event.payload :=
        ⟨event, hmem, hrun, hmatches.1, rfl⟩
      exact ⟨hfound.stable hrely, hmatches.2⟩
  · exact fun failure later hlater _ ↦ ⟨prefix_keeps_claim hlater.claims hclaim, trivial⟩

/-- The keys of the evidence among some events, as `_run_evidence_index` collects them. -/
def indexOf (events : List EventRow) : List (String × String) :=
  events.filterMap fun event ↦
    match event.payload.get? "evidence_id" with
    | some (.str evidenceId) => some (event.eventType, evidenceId)
    | _ => none

theorem mem_indexOf {events : List EventRow} {eventType id : String} :
    (eventType, id) ∈ indexOf events ↔ ∃ event ∈ events, event.eventType = eventType ∧
      Store.evidenceId event.payload = some id := by
  unfold indexOf
  rw [List.mem_filterMap]
  refine exists_congr fun event ↦ and_congr_right fun _ ↦ ?_
  unfold Store.evidenceId
  cases event.payload.get? "evidence_id" with
  | none => simp
  | some value => cases value <;> simp

/-- Everything in the Run's log is in the index that a look yields. -/
theorem indexed_of_look {seen : ProjectorWorld} (hinv : ProjectorInv seen) :
    Indexed claim (indexOf (listRunEvents seen.db claim.run.runId 0)) seen := by
  intro _ event hmem id hid
  obtain ⟨hmirrored, hrun⟩ := mem_ofRun.mp hmem
  exact mem_indexOf.mpr ⟨event, (mem_listRunEvents hinv).mpr ⟨(mem_mirroredEvents.mp hmirrored).1,
    hrun⟩, rfl, hid⟩

/-- The id of a piece of evidence is the text under its key. -/
theorem get?_of_evidenceId {payload : Payload} {id : String}
    (hid : Store.evidenceId payload = some id) : payload.get? "evidence_id" = some (.str id) := by
  unfold Store.evidenceId at hid
  cases hget : payload.get? "evidence_id" with
  | none =>
    rw [hget] at hid
    cases hid
  | some value =>
    rw [hget] at hid
    cases value with
    | str text => exact congrArg (some ∘ Json.str) (Option.some.inj hid)
    | null | bool | int | number | arr | obj => cases hid

theorem wp_ensureRunEvidence {eventType id : String} {payload : Payload}
    (hclaim : start.claims[attempt]? = some claim) (hmirrored : isMirrored eventType = true)
    (hid : Store.evidenceId payload = some id)
    (hsource : RecordedIn start claim.run.runId eventType payload) :
    (ensureRunEvidence claim.run.runId eventType payload (some claim.leaseToken)).wp
      (projectorProtocol hasher) attempt (fun _ _ ↦ True) start := by
  unfold ensureRunEvidence
  refine Program.wp_bind (wp_look (fun _ _ ↦ rfl) ?_ fun _ _ _ _ ↦ trivial)
  intro seen later hseen hseenInv hlater _
  have hclaimed := prefix_keeps_claim hseen.claims hclaim
  have hgiven : payload.getD "evidence_id" = .str id := by
    rw [Payload.getD, get?_of_evidenceId hid, Option.getD_some]
  change Program.wp _ attempt _ (if ((listRunEvents seen.db claim.run.runId 0).any fun event ↦
    event.eventType == eventType && isEvidence event.payload (payload.getD "evidence_id")) = true
      then _ else _) later
  rw [hgiven]
  by_cases hpresent : ((listRunEvents seen.db claim.run.runId 0).any fun event ↦
      event.eventType == eventType && isEvidence event.payload (.str id)) = true
  · rw [if_pos hpresent]
    exact Program.wp_done fun _ _ _ ↦ trivial
  · rw [if_neg hpresent]
    have habsent : (eventType, id) ∉ indexOf (listRunEvents seen.db claim.run.runId 0) := by
      intro hmem
      obtain ⟨event, hevent, htype, heventId⟩ := mem_indexOf.mp hmem
      refine hpresent (List.any_eq_true.mpr ⟨event, hevent, ?_⟩)
      rw [Bool.and_eq_true, beq_iff_eq, isEvidence_iff]
      exact ⟨htype, heventId⟩
    refine Program.wp_bind
      (wp_appendRunEvent (prefix_keeps_claim hlater.claims hclaimed) hmirrored hid
      ((hsource.stable hseen).stable hlater) ((indexed_of_look hseenInv).stable hclaimed hlater)
      habsent ?_ fun _ _ ↦ trivial)
    intro _ _ _ _ _ _ _
    exact Program.wp_done fun _ _ _ ↦ trivial

theorem wp_ensureRecorded {eventType id : String} (hclaim : start.claims[attempt]? = some claim)
    (hrecorded : eventType ∈ mirroredEventTypes) :
    (ensureRecorded claim.run.runId eventType id (some claim.leaseToken)).wp
      (projectorProtocol hasher) attempt (fun _ _ ↦ True) start := by
  refine Program.wp_seq _ (wp_workflowEvidence hclaim) ?_ fun _ _ _ _ ↦ trivial
  rintro (_ | payload) later - ⟨hclaimed, hfound⟩
  · exact Program.wp_done fun _ _ _ ↦ trivial
  · exact wp_ensureRunEvidence hclaimed (isMirrored_of_recorded hrecorded) hfound.2 hfound.1

theorem wp_recordEvidence {eventType id : String} (fields : Payload)
    (hclaim : start.claims[attempt]? = some claim) (hrecorded : eventType ∈ mirroredEventTypes) :
    (recordEvidence claim.run.runId eventType id fields (some claim.leaseToken)).wp
      (projectorProtocol hasher) attempt (fun _ _ ↦ True) start := by
  have hmirrored := isMirrored_of_recorded hrecorded
  unfold recordEvidence
  refine Program.wp_seq _ (wp_workflowEvidence hclaim) ?_ fun _ _ _ _ ↦ trivial
  rintro (_ | payload) later - ⟨hclaimed, hfound⟩
  · have hid : Store.evidenceId (("evidence_id", .str id) :: fields) = some id := by
      simp [Store.evidenceId, Payload.get?, Json.lookup]
    refine Program.wp_bind (Program.wp_bind (wp_appendEvent hclaimed hrecorded hid hfound ?_
      fun _ _ ↦ trivial))
    intro _ before createdAt after hbefore hafter _
    refine Program.wp_done fun last hlast _ ↦ ?_
    have hsource : RecordedIn (before.withRecord attempt claim eventType _ createdAt)
        claim.run.runId eventType (("evidence_id", .str id) :: fields) :=
      ⟨_, List.mem_append_right _ List.mem_cons_self, rfl, rfl, rfl⟩
    have hlastClaimed : last.claims[attempt]? = some claim :=
      prefix_keeps_claim (hbefore.claims.trans (hafter.trans hlast).claims) hclaimed
    exact wp_ensureRunEvidence hlastClaimed hmirrored hid (hsource.stable (hafter.trans hlast))
  · dsimp only
    split_ifs
    · exact wp_ensureRunEvidence hclaimed hmirrored hfound.2 hfound.1
    · exact Program.wp_raise fun _ _ _ ↦ trivial

/-! ### `mirror` -/

/-- What an event says, apart from its place and time. -/
def signature (event : EventRow) : String × Payload := (event.eventType, event.payload)

/-- Some events were mirrored: each that belongs into the Run's log is there. -/
def AllMirrored (claim : RunLeaseClaim) (events : List EventRow) (world : ProjectorWorld) : Prop :=
  ∀ event ∈ events, isMirrored event.eventType = true →
    MirroredIn world claim.run.runId event.eventType event.payload

/-- Every key of an index stands for an event of the Run's log. -/
def IndexPresent (claim : RunLeaseClaim) (index : List (String × String)) (world : ProjectorWorld) :
    Prop :=
  ∀ eventType id, (eventType, id) ∈ index → ∃ event ∈ world.db.runEvents,
    event.runId = claim.run.runId ∧ event.eventType = eventType ∧
      Store.evidenceId event.payload = some id

/-- The loop of `mirror` has gone through `passed` and has `rest` before it. -/
structure Mirroring (attempt : Nat) (claim : RunLeaseClaim) (passed rest : List EventRow)
    (index : Option (List (String × String))) (world : ProjectorWorld) : Prop where
  claim_eq : world.claims[attempt]? = some claim
  log : (passed ++ rest).Sublist (ofRun claim.run.runId world.db.workflowEvents)
  mirrored : AllMirrored claim passed world
  appended : ((world.appended attempt).map signature).Sublist (passed.map signature)
  index : ∀ keys, index = some keys → Indexed claim keys world ∧ IndexPresent claim keys world

theorem Mirroring.stable {passed rest : List EventRow} {index : Option (List (String × String))}
    (hmirroring : Mirroring attempt claim passed rest index before)
    (hrely : ProjectorRely attempt before later) :
    Mirroring attempt claim passed rest index later where
  claim_eq := prefix_keeps_claim hrely.claims hmirroring.claim_eq
  log := hmirroring.log.trans (hrely.workflowLog.sublist.filter _)
  mirrored event hmem hmirrored := (hmirroring.mirrored event hmem hmirrored).stable hrely
  appended := by
    rw [hrely.appended]
    exact hmirroring.appended
  index keys hkeys := by
    obtain ⟨hindexed, hpresent⟩ := hmirroring.index keys hkeys
    refine ⟨hindexed.stable hmirroring.claim_eq hrely, fun eventType id hmem ↦ ?_⟩
    obtain ⟨event, hevent, hfacts⟩ := hpresent eventType id hmem
    exact ⟨event, hrely.runLog.subset hevent, hfacts⟩

/-- The event before the loop is one of the Run's workflow events. -/
theorem Mirroring.head_mem {passed rest : List EventRow} {event : EventRow}
    {index : Option (List (String × String))} {world : ProjectorWorld}
    (hmirroring : Mirroring attempt claim passed (event :: rest) index world) :
    event ∈ world.db.workflowEvents ∧ event.runId = claim.run.runId :=
  mem_ofRun.mp (hmirroring.log.subset (List.mem_append_right _ List.mem_cons_self))

/-- The loop passes an event that is there or does not belong there. -/
theorem Mirroring.pass {passed rest : List EventRow} {event : EventRow}
    {index : Option (List (String × String))} {world : ProjectorWorld}
    (hmirroring : Mirroring attempt claim passed (event :: rest) index world)
    (hevent : isMirrored event.eventType = true →
      MirroredIn world claim.run.runId event.eventType event.payload) :
    Mirroring attempt claim (passed ++ [event]) rest index world where
  claim_eq := hmirroring.claim_eq
  log := by
    rw [List.append_assoc]
    exact hmirroring.log
  mirrored other hmem := by
    rcases List.mem_append.mp hmem with hpassed | hnew
    · exact hmirroring.mirrored other hpassed
    · rw [List.mem_singleton.mp hnew]
      exact hevent
  appended := by
    rw [List.map_append]
    exact hmirroring.appended.trans (List.sublist_append_left _ _)
  index := hmirroring.index

/-- A key in the index stands for the event itself: the log repeats workflow events, and no two of
these share a key. -/
theorem ProjectorInv.mirroredIn {world : ProjectorWorld} (hinv : ProjectorInv world)
    {keys : List (String × String)} (hpresent : IndexPresent claim keys world) {event : EventRow}
    {id : String} (hmem : event ∈ world.db.workflowEvents) (hrun : event.runId = claim.run.runId)
    (hmirrored : isMirrored event.eventType = true) (hid : Store.evidenceId event.payload = some id)
    (hkey : (event.eventType, id) ∈ keys) :
    MirroredIn world claim.run.runId event.eventType event.payload := by
  obtain ⟨twin, htwin, htwinRun, htwinType, htwinId⟩ := hpresent _ _ hkey
  obtain ⟨source, hsource, hsame⟩ := hinv.origin twin
    (mem_mirroredEvents.mpr ⟨htwin, htwinType ▸ hmirrored⟩)
  have hkeys : evidenceKey event = evidenceKey source := by
    rw [hsame.key_eq, evidenceKey, evidenceKey, hrun, htwinRun, htwinType, hid, htwinId]
  have hevent : event = source := hinv.eq_of_key hmem hsource hmirrored hkeys
  exact ⟨twin, htwin, htwinRun, htwinType, by rw [hevent, hsame.2.2]⟩

/-- What a call of `mirror` that returns has done, given the events it went through. -/
def MirrorPost (attempt : Nat) (claim : RunLeaseClaim) (events : List EventRow) :
    Except Failure Unit → ProjectorWorld → Prop
  | .ok _, world => AllMirrored claim events world ∧
      ((world.appended attempt).map signature).Sublist (events.map signature) ∧
      events.Sublist (ofRun claim.run.runId world.db.workflowEvents)
  | .error _, _ => True

/-- The event that the loop just appended is in the Run's log and in the extended index. -/
theorem Mirroring.append {passed rest : List EventRow} {event : EventRow}
    {keys : List (String × String)} {id createdAt : String}
    (hmirroring : Mirroring attempt claim passed (event :: rest) (some keys) before)
    (hmirrored : isMirrored event.eventType = true)
    (hid : Store.evidenceId event.payload = some id) :
    Mirroring attempt claim (passed ++ [event]) rest (some ((event.eventType, id) :: keys))
      (before.withMirrored attempt claim event.eventType event.payload createdAt) := by
  obtain ⟨hindexed, hpresent⟩ := hmirroring.index keys rfl
  have hlog : (before.withMirrored attempt claim event.eventType event.payload
      createdAt).db.runEvents = before.db.runEvents ++
        [newEvent before.db.runEvents claim.run.runId event.eventType
          event.payload createdAt] := rfl
  constructor
  case claim_eq => exact hmirroring.claim_eq
  case log =>
    rw [List.append_assoc]
    exact hmirroring.log
  case mirrored =>
    intro other hmem hother
    rcases List.mem_append.mp hmem with hpassed | hnew
    · obtain ⟨twin, htwin, hfacts⟩ := hmirroring.mirrored other hpassed hother
      exact ⟨twin, List.mem_append_left _ htwin, hfacts⟩
    · obtain rfl := List.mem_singleton.mp hnew
      exact ⟨_, List.mem_append_right _ List.mem_cons_self, rfl, rfl, rfl⟩
  case appended =>
    have happended : (before.withMirrored attempt claim event.eventType event.payload
        createdAt).appended attempt = before.appended attempt ++
          [newEvent before.db.runEvents claim.run.runId event.eventType
            event.payload createdAt] := by
      unfold ProjectorWorld.withMirrored ProjectorWorld.commit
      dsimp only
      rw [Function.update_self]
      exact congrArg (before.appended attempt ++ ·) List.drop_left
    rw [happended, List.map_append, List.map_append]
    exact hmirroring.appended.append (List.Sublist.refl _)
  case index =>
    intro others hothers
    obtain rfl := Option.some.inj hothers
    have hadded : mirroredEvents (before.db.runEvents ++
        [newEvent before.db.runEvents claim.run.runId event.eventType event.payload createdAt]) =
          mirroredEvents before.db.runEvents ++
            [newEvent before.db.runEvents claim.run.runId event.eventType
              event.payload createdAt] :=
      mirroredEvents_append hmirrored
    constructor
    · intro hholds other hmem otherId hother
      rw [hlog, hadded] at hmem
      obtain ⟨hmem, hrun⟩ := mem_ofRun.mp hmem
      rcases List.mem_append.mp hmem with hold | hnew
      · exact List.mem_cons_of_mem _ (hindexed hholds other (mem_ofRun.mpr ⟨hold, hrun⟩) otherId
          hother)
      · obtain rfl := List.mem_singleton.mp hnew
        have hsame : otherId = id := Option.some.inj (hother.symm.trans hid)
        exact hsame ▸ List.mem_cons_self
    · intro eventType otherId hmem
      rcases List.mem_cons.mp hmem with hnew | hold
      · obtain ⟨rfl, rfl⟩ := Prod.mk.inj hnew
        exact ⟨_, List.mem_append_right _ List.mem_cons_self, rfl, rfl, hid⟩
      · obtain ⟨twin, htwin, hfacts⟩ := hpresent eventType otherId hold
        exact ⟨twin, List.mem_append_left _ htwin, hfacts⟩

/-- The index that the loop works with: the one it has, or one that it reads now. -/
def mirrorIndex (runId : String) : Option (List (String × String)) → Quiet (List (String × String))
  | some keys => pure keys
  | none => runEvidenceIndex runId

/-- The loop at a mirrored event with an id. -/
theorem mirrorEvents_cons {runId id : String} {token : Option String} {event : EventRow}
    {rest : List EventRow} {index : Option (List (String × String))}
    (hmirrored : isMirrored event.eventType = true)
    (hid : Store.evidenceId event.payload = some id) :
    mirrorEvents runId token (event :: rest) index =
      (mirrorIndex runId index).bind fun keys ↦
        if keys.contains (event.eventType, id) then mirrorEvents runId token rest (some keys)
        else (appendRunEvent runId event.eventType event.payload token).bind fun _ ↦
          mirrorEvents runId token rest (some ((event.eventType, id) :: keys)) := by
  conv_lhs => unfold mirrorEvents
  rw [hmirrored, get?_of_evidenceId hid]
  simp only [Program.discard_eq_bind, Program.bind_eq_bind, Program.bind_bind, Program.done_bind]
  cases index with
  | none => rfl
  | some keys => rfl

theorem wp_mirrorIndex {passed rest : List EventRow} {index : Option (List (String × String))}
    (hmirroring : Mirroring attempt claim passed rest index start) :
    (mirrorIndex claim.run.runId index).wp (projectorProtocol hasher) attempt
      (fun result later ↦ ∀ keys, result = .ok keys →
        Mirroring attempt claim passed rest (some keys) later) start := by
  cases index with
  | some keys =>
    refine Program.wp_done fun later hlater _ others hothers ↦ ?_
    obtain rfl := Except.ok.inj hothers
    exact hmirroring.stable hlater
  | none =>
    refine Program.wp_bind (wp_look (fun _ _ ↦ rfl) ?_ ?_)
    · intro seen later hseen hseenInv hlater _
      refine Program.wp_done fun last hlast _ keys hkeys ↦ ?_
      obtain rfl := Except.ok.inj hkeys
      have hfirst : Mirroring attempt claim passed rest none seen := hmirroring.stable hseen
      have hread : Mirroring attempt claim passed rest
          (some (indexOf (listRunEvents seen.db claim.run.runId 0))) seen := by
        refine ⟨hfirst.claim_eq, hfirst.log, hfirst.mirrored, hfirst.appended,
          fun others hothers ↦ ?_⟩
        obtain rfl := Option.some.inj hothers
        refine ⟨indexed_of_look hseenInv, fun eventType id hmem ↦ ?_⟩
        obtain ⟨event, hevent, hfacts⟩ := mem_indexOf.mp hmem
        obtain ⟨hlogged, hrun⟩ := (mem_listRunEvents hseenInv).mp hevent
        exact ⟨event, hlogged, hrun, hfacts⟩
      exact (hread.stable hlater).stable hlast
    · intro failure later _ _ keys hkeys
      cases hkeys

/-- The loop, by induction on the events before it: whatever it passes is in the Run's log. -/
theorem wp_mirrorEvents {passed rest : List EventRow} {index : Option (List (String × String))}
    (hmirroring : Mirroring attempt claim passed rest index start) :
    (mirrorEvents claim.run.runId (some claim.leaseToken) rest index).wp (projectorProtocol hasher)
      attempt (MirrorPost attempt claim (passed ++ rest)) start := by
  induction rest generalizing passed index start with
  | nil =>
    refine Program.wp_done fun later hlater _ ↦ ?_
    have hend := hmirroring.stable hlater
    have hlog := hend.log
    rw [List.append_nil] at hlog ⊢
    exact ⟨hend.mirrored, hend.appended, hlog⟩
  | cons event rest ih =>
    refine Program.wp_of_later fun now hnow hinv ↦ ?_
    have hcurrent := hmirroring.stable hnow
    rw [List.append_cons]
    by_cases hmirrored : isMirrored event.eventType = true
    · obtain ⟨hmem, hrun⟩ := hcurrent.head_mem
      obtain ⟨id, hid⟩ := ProjectorInv.evidenceId hinv hmem hmirrored
      rw [mirrorEvents_cons hmirrored hid]
      refine Program.wp_seq _ (wp_mirrorIndex hcurrent) ?_ fun _ _ _ _ ↦ trivial
      intro keys later hlaterInv hkeys
      have hindexed := hkeys keys rfl
      obtain ⟨hkeysIndexed, hpresent⟩ := hindexed.index keys rfl
      obtain ⟨hmemLater, -⟩ := hindexed.head_mem
      by_cases hcontains : keys.contains (event.eventType, id) = true
      · rw [if_pos hcontains]
        exact ih (hindexed.pass fun _ ↦ ProjectorInv.mirroredIn hlaterInv hpresent hmemLater hrun
          hmirrored hid (List.contains_iff_mem.mp hcontains))
      · rw [if_neg hcontains]
        have habsent : (event.eventType, id) ∉ keys :=
          fun hmem ↦ hcontains (List.contains_iff_mem.mpr hmem)
        refine Program.wp_bind (wp_appendRunEvent hindexed.claim_eq hmirrored hid
          ⟨event, hmemLater, hrun, rfl, rfl⟩ hkeysIndexed habsent ?_ fun _ _ ↦ trivial)
        intro _ before createdAt after hbefore hafter _
        exact ih (((hindexed.stable hbefore).append hmirrored hid).stable hafter)
    · rw [Bool.not_eq_true] at hmirrored
      unfold mirrorEvents
      rw [hmirrored]
      exact ih (hcurrent.pass fun htrue ↦ absurd (hmirrored.symm.trans htrue) (by decide))

/-- A call of `mirror` goes through all events of its Run that were there when it started. -/
theorem wp_mirrorEvidence (hclaim : start.claims[attempt]? = some claim)
    (happended : start.appended attempt = []) (authority : ExecutionAuthority) :
    (mirrorEvidence (attemptContext claim authority)).wp (projectorProtocol hasher) attempt
      (fun result later ↦ ∃ events, MirrorPost attempt claim events result later ∧
        ∀ event ∈ ofRun claim.run.runId start.db.workflowEvents, event ∈ events) start := by
  refine Program.wp_bind (wp_look (fun _ _ ↦ rfl) ?_ ?_)
  · intro seen later hseen hseenInv hlater _
    have hstart : Mirroring attempt claim [] (Store.listEvents seen.db claim.run.runId 0) none
        seen := by
      refine ⟨prefix_keeps_claim hseen.claims hclaim, ?_,
        fun _ hmem ↦ (List.not_mem_nil hmem).elim, ?_,
        fun _ hkeys ↦ (Option.some_ne_none _ hkeys.symm).elim⟩
      · refine List.monotone_filter_right _ fun event hlisted ↦ ?_
        exact (Bool.and_eq_true _ _ ▸ hlisted).1
      · rw [hseen.appended, happended, List.map_nil]
    refine Program.wp_mono (wp_mirrorEvents (hstart.stable hlater)) fun result last _ hpost ↦ ?_
    refine ⟨_, hpost, fun event hmem ↦ ?_⟩
    obtain ⟨hlogged, hrun⟩ := mem_ofRun.mp hmem
    exact (mem_listEvents hseenInv).mpr ⟨hseen.workflowLog.subset hlogged, hrun⟩
  · exact fun failure later _ _ ↦ ⟨_, trivial, fun event hmem ↦ hmem⟩

end Steps

/-! ### Requests of the others -/

section Requests

variable {hasher : Hasher} {request : Request} {world : ProjectorWorld}

/-- A Run that is there stays there. -/
theorem run_stays {db : Database} {runId : String} {row : RunRow}
    (hfind : db.runs.find runId = some row) :
    ∃ later, (request.apply hasher db).runs.find runId = some later := by
  rcases runTables_of_apply hasher db request with hsame | ⟨call, -, hchange⟩
  · exact ⟨row, by rw [hsame.1, hfind]⟩
  · obtain ⟨later, hlater, -⟩ := submission_fixed hchange hfind
    exact ⟨later, hlater⟩

/-- What a request hands out is a claim of a stored Run with the token that the request drew. -/
theorem claimsOf_cases {db after : Database} {reading : Reading} {call : Call} {reply : call.Reply}
    (hok : call.perform hasher db reading = .ok (reply, after)) :
    claimsOf call reply = [] ∨ ∃ claim, claimsOf call reply = [claim] ∧
      Request.drawn ⟨reading, call⟩ = [claim.leaseToken] ∧
        ∃ row, db.runs.find claim.run.runId = some row := by
  cases call with
  | run call =>
    cases call with
    | claimNextRun ownerId duration code =>
      cases reply with
      | none => exact .inl rfl
      | some claim =>
        obtain ⟨row, hfind, -, htoken, -⟩ := claimNextRun_eq_some hok
        exact .inr ⟨claim, rfl, by rw [htoken]; rfl, row, hfind⟩
    | _ => exact .inl rfl
  | workflow call => exact .inl rfl
  | memory call => exact .inl rfl

/-- The world after a request that hands out some claims. -/
def ProjectorWorld.served (hasher : Hasher) (world : ProjectorWorld) (request : Request)
    (claims : List RunLeaseClaim) : ProjectorWorld :=
  { world with
    db := request.apply hasher world.db
    issued := world.issued ++ request.drawn
    claims := world.claims ++ claims }

theorem serve_cases (hasher : Hasher) (system : ProjectorSystem) (request : Request) :
    ∃ claims, system.serve hasher request =
        { system with world := system.world.served hasher request claims } ∧
      (claims = [] ∨ ∃ claim, claims = [claim] ∧ request.drawn = [claim.leaseToken] ∧
        ∃ row, system.world.db.runs.find claim.run.runId = some row) := by
  unfold ProjectorSystem.serve ProjectorWorld.served
  dsimp only
  cases hperform : request.call.perform hasher system.world.db request.reading with
  | error error =>
    refine ⟨[], ?_, .inl rfl⟩
    rw [apply_of_error hperform, List.append_nil]
  | ok result =>
    obtain ⟨reply, after⟩ := result
    refine ⟨claimsOf request.call reply, ?_, claimsOf_cases hperform⟩
    rw [apply_of_ok hperform]

/-- Nobody else records evidence. -/
theorem recordedEvents_apply (hquiet : writesEvidence request.call = false) (db : Database) :
    recordedEvents (request.apply hasher db).workflowEvents = recordedEvents db.workflowEvents := by
  obtain ⟨events, hevents, horigin⟩ := (logs_of_apply hasher db request).1
  rw [hevents, recordedEvents, recordedEvents, List.filter_append, List.append_right_eq_self,
    List.filter_eq_nil_iff]
  intro event hmem hcontains
  have hrecorded := List.contains_iff_mem.mp hcontains
  obtain ⟨-, call, hcall, hcause⟩ := horigin event hmem
  cases hcause with
  | action htype => exact absurd (recorded_not_action _ hrecorded) (by rw [htype]; decide)
  | ledger htype =>
    exact absurd (ledgerEventTypes_not_mirrored _ htype)
      (by rw [isMirrored_of_recorded hrecorded]; decide)
  | caller token hevent =>
    rw [hcall, hevent] at hquiet
    exact absurd hquiet (by rw [writesEvidence, isMirrored_of_recorded hrecorded]; decide)

/-- Nobody else writes mirrored events into the log of a Run. -/
theorem mirroredEvents_apply (hquiet : writesEvidence request.call = false) (db : Database) :
    mirroredEvents (request.apply hasher db).runEvents = mirroredEvents db.runEvents := by
  obtain ⟨events, hevents, horigin⟩ := (logs_of_apply hasher db request).2
  rw [hevents, mirroredEvents, mirroredEvents, List.filter_append, List.append_right_eq_self,
    List.filter_eq_nil_iff]
  intro event hmem hmirrored
  obtain ⟨-, call, hcall, hcause⟩ := horigin event hmem
  cases hcause with
  | run htype =>
    exact absurd (runEventTypes_not_mirrored _ htype) (by rw [hmirrored]; decide)
  | caller token hevent =>
    rw [hcall, hevent] at hquiet
    exact absurd hquiet (by rw [writesEvidence, hmirrored]; decide)

theorem forgesAction_of_quiet (hquiet : writesEvidence request.call = false) :
    request.forgesAction = false := by
  obtain ⟨reading, call⟩ := request
  cases call with
  | workflow call =>
    cases call with
    | appendEvent runId eventType payload token =>
      have hplain : isMirrored eventType = false := hquiet
      exact (Bool.or_eq_false_iff.mp hplain).1
    | _ => rfl
  | run call => rfl
  | memory call => rfl

/-- A lease that was drawn before the request is current after it only if it was before. -/
theorem holdsLease_of_apply {db : Database} {issued : List String} {runId token : String}
    (hfresh : ∀ drawn ∈ request.drawn, drawn ∉ issued) (hissued : token ∈ issued)
    (hholds : HoldsLease (request.apply hasher db) runId token) : HoldsLease db runId token := by
  obtain ⟨row, hfind, htoken⟩ := hholds
  rcases lease_of_apply hfind htoken with ⟨before, hbefore, hheld, -⟩ | hdrawn
  · exact ⟨before, hbefore, hheld⟩
  · exact absurd hissued (hfresh token hdrawn)

variable {claims : List RunLeaseClaim}

theorem ProjectorInv.serve (hinv : ProjectorInv world)
    (hfresh : ∀ drawn ∈ request.drawn, drawn ∉ world.issued)
    (hquiet : writesEvidence request.call = false)
    (hclaims : claims = [] ∨ ∃ claim, claims = [claim] ∧ request.drawn = [claim.leaseToken] ∧
      ∃ row, world.db.runs.find claim.run.runId = some row) :
    ProjectorInv (world.served hasher request claims) := by
  obtain ⟨hworkflow, hrun⟩ := logs_of_apply hasher world.db request
  constructor
  case distinct =>
    change ((world.claims ++ claims).map RunLeaseClaim.leaseToken).Nodup
    rcases hclaims with rfl | ⟨claim, rfl, hdrawn, -⟩
    · rw [List.append_nil]
      exact hinv.distinct
    · rw [List.map_append, List.map_singleton, ← List.concat_eq_append, List.nodup_concat]
      refine ⟨fun hmem ↦ ?_, hinv.distinct⟩
      obtain ⟨twin, htwin, htoken⟩ := List.mem_map.mp hmem
      refine hfresh claim.leaseToken (hdrawn ▸ List.mem_singleton_self _) ?_
      exact htoken ▸ hinv.drawn twin htwin
  case drawn =>
    intro claim hmem
    rcases List.mem_append.mp hmem with hold | hnew
    · exact List.mem_append_left _ (hinv.drawn claim hold)
    · rcases hclaims with rfl | ⟨handed, rfl, hdrawn, -⟩
      · cases hnew
      · obtain rfl := List.mem_singleton.mp hnew
        exact List.mem_append_right _ (hdrawn ▸ List.mem_singleton_self _)
  case held =>
    rintro runId token ⟨row, hfind, htoken⟩
    rcases lease_of_apply hfind htoken with ⟨before, hbefore, hheld, -⟩ | hdrawn
    · exact List.mem_append_left _ (hinv.held runId token ⟨before, hbefore, hheld⟩)
    · exact List.mem_append_right _ hdrawn
  case managed =>
    intro claim hmem
    rcases List.mem_append.mp hmem with hold | hnew
    · obtain ⟨row, hfind⟩ := hinv.managed claim hold
      exact run_stays hfind
    · rcases hclaims with rfl | ⟨handed, rfl, -, row, hfind⟩
      · cases hnew
      · obtain rfl := List.mem_singleton.mp hnew
        exact run_stays hfind
  case workflowSequences =>
    obtain ⟨events, hevents, horigin⟩ := hworkflow
    intro event hmem
    change event ∈ (request.apply hasher world.db).workflowEvents at hmem
    rw [hevents] at hmem
    rcases List.mem_append.mp hmem with hold | hnew
    · exact hinv.workflowSequences event hold
    · exact (horigin event hnew).1
  case runSequences =>
    obtain ⟨events, hevents, horigin⟩ := hrun
    intro event hmem
    change event ∈ (request.apply hasher world.db).runEvents at hmem
    rw [hevents] at hmem
    rcases List.mem_append.mp hmem with hold | hnew
    · exact hinv.runSequences event hold
    · exact (horigin event hnew).1
  case actions => exact actionEvidence_apply hasher hinv.actions (forgesAction_of_quiet hquiet)
  case recorded =>
    change ((recordedEvents (request.apply hasher world.db).workflowEvents).map evidenceKey).Nodup
    rw [recordedEvents_apply hquiet]
    exact hinv.recorded
  case identified =>
    change ∀ event ∈ recordedEvents (request.apply hasher world.db).workflowEvents, _
    rw [recordedEvents_apply hquiet]
    exact hinv.identified
  case mirrored =>
    change ((mirroredEvents (request.apply hasher world.db).runEvents).map evidenceKey).Nodup
    rw [mirroredEvents_apply hquiet]
    exact hinv.mirrored
  case origin =>
    obtain ⟨events, hevents, -⟩ := hworkflow
    change ∀ event ∈ mirroredEvents (request.apply hasher world.db).runEvents,
      ∃ source ∈ (request.apply hasher world.db).workflowEvents, _
    rw [mirroredEvents_apply hquiet, hevents]
    intro event hmem
    obtain ⟨source, hsource, hsame⟩ := hinv.origin event hmem
    exact ⟨source, List.mem_append_left _ hsource, hsame⟩

/-- Every attempt may rely on what it relies on while others call the stores. -/
theorem rely_of_serve (hinv : ProjectorInv world)
    (hfresh : ∀ drawn ∈ request.drawn, drawn ∉ world.issued)
    (hquiet : writesEvidence request.call = false) (attempt : Nat) :
    ProjectorRely attempt world (world.served hasher request claims) := by
  obtain ⟨⟨events, hevents, -⟩, others, hothers, -⟩ := logs_of_apply hasher world.db request
  constructor
  case claims => exact List.prefix_append _ _
  case workflowLog => exact ⟨events, hevents.symm⟩
  case runLog => exact ⟨others, hothers.symm⟩
  case appended => rfl
  case undivided =>
    intro claim hclaim hholds
    have hissued := hinv.drawn claim (List.mem_of_getElem? hclaim)
    refine ⟨holdsLease_of_apply hfresh hissued hholds, ?_, ?_⟩
    · exact congrArg (ofRun _) (recordedEvents_apply hquiet world.db)
    · exact congrArg (ofRun _) (mirroredEvents_apply hquiet world.db)

end Requests

/-! ### Whole histories -/

/-- What a call of `mirror` that returned has done: the evidence of its Run that was there when it
started is in the Run's log, and what it appended repeats the workflow log in its order. -/
structure Completed (runId : String) (before appended : List EventRow) (db : Database) : Prop where
  present : ∀ event ∈ before, event.runId = runId → isMirrored event.eventType = true →
    ∃ twin ∈ db.runEvents, SameEvidence event twin
  ordered : (appended.map signature).Sublist ((ofRun runId db.workflowEvents).map signature)

theorem Completed.mono {runId : String} {before appended : List EventRow} {db later : Database}
    (hcompleted : Completed runId before appended db)
    (hworkflow : db.workflowEvents <+: later.workflowEvents)
    (hrun : db.runEvents <+: later.runEvents) : Completed runId before appended later where
  present event hmem hevent hmirrored := by
    obtain ⟨twin, htwin, hsame⟩ := hcompleted.present event hmem hevent hmirrored
    exact ⟨twin, hrun.subset htwin, hsame⟩
  ordered := hcompleted.ordered.trans ((hworkflow.sublist.filter _).map _)

/-- What is left of a call may still run, and leads to what the call promises. -/
def Running (hasher : Hasher) (world : ProjectorWorld) (attempt : Nat) (running : ActiveCall) :
    Prop :=
  running.rest.wp (projectorProtocol hasher) attempt
    (fun result later ↦ running.call = .mirror → result = .ok () →
      Completed running.runId running.before (later.appended attempt) later.db) world

/-- What every reachable state of the system satisfies. -/
structure ProjectorReached (hasher : Hasher) (system : ProjectorSystem) : Prop where
  inv : ProjectorInv system.world
  running : ∀ attempt running, system.active attempt = some running →
    Running hasher system.world attempt running
  returned : ∀ call ∈ system.returned, call.call = .mirror →
    Completed call.runId call.before call.appended system.world.db

section Histories

variable {hasher : Hasher} {system : ProjectorSystem}

theorem wp_program {attempt : Nat} {claim : RunLeaseClaim} {world : ProjectorWorld}
    (hclaim : world.claims[attempt]? = some claim) (happended : world.appended attempt = [])
    (authority : ExecutionAuthority) (call : ProjectorCall) :
    Running hasher world attempt ⟨call, claim.run.runId, world.db.workflowEvents,
      call.program (attemptContext claim authority)⟩ := by
  cases call with
  | record eventType id fields hrecorded =>
    exact Program.wp_mono (wp_recordEvidence fields hclaim hrecorded)
      fun _ _ _ _ hcall ↦ by cases hcall
  | ensure eventType id hrecorded =>
    exact Program.wp_mono (wp_ensureRecorded hclaim hrecorded) fun _ _ _ _ hcall ↦ by cases hcall
  | mirror =>
    refine Program.wp_mono (wp_mirrorEvidence hclaim happended authority) ?_
    rintro result later - ⟨events, hpost, hall⟩ - rfl
    obtain ⟨hmirrored, hordered, hlog⟩ := hpost
    refine ⟨fun event hmem hrun hevent ↦ ?_, hordered.trans (hlog.map _)⟩
    obtain ⟨twin, htwin, htwinRun, htype, hpayload⟩ :=
      hmirrored event (hall event (mem_ofRun.mpr ⟨hmem, hrun⟩)) hevent
    exact ⟨twin, htwin, hrun.trans htwinRun.symm, htype.symm, hpayload.symm⟩

theorem ProjectorReached.start (hreached : ProjectorReached hasher system) (attempt : Nat)
    (authority : ExecutionAuthority) (call : ProjectorCall) :
    ProjectorReached hasher (system.start attempt authority call) := by
  unfold ProjectorSystem.start
  split
  · next claim hclaim hidle =>
    have hinv := hreached.inv
    refine ⟨?_, fun other running hrunning ↦ ?_, hreached.returned⟩
    · exact ⟨hinv.distinct, hinv.drawn, hinv.held, hinv.managed, hinv.workflowSequences,
        hinv.runSequences, hinv.actions, hinv.recorded, hinv.identified, hinv.mirrored, hinv.origin⟩
    · by_cases hother : other = attempt
      · subst hother
        dsimp only at hrunning
        rw [Function.update_self] at hrunning
        obtain rfl := Option.some.inj hrunning
        refine wp_program ?_ ?_ authority call
        · exact hclaim
        · exact Function.update_self _ _ _
      · dsimp only at hrunning
        rw [Function.update_of_ne hother] at hrunning
        refine Program.wp_stable (hreached.running other running hrunning) ?_
        exact ⟨List.prefix_rfl, List.prefix_rfl, List.prefix_rfl, Function.update_of_ne hother _ _,
          fun _ _ hholds ↦ ⟨hholds, rfl, rfl⟩⟩
  · exact hreached

/-- One operation of one attempt. -/
theorem ProjectorReached.proceed (hreached : ProjectorReached hasher system) {attempt : Nat}
    {running : ActiveCall} (hactive : system.active attempt = some running) {after : ProjectorWorld}
    {rest : Quiet Unit} (hinv : ProjectorInv after)
    (hguar : ∀ other, other ≠ attempt → ProjectorRely other system.world after)
    (hrest : Running hasher after attempt { running with rest := rest }) :
    ProjectorReached hasher (system.proceed attempt running after rest) := by
  have hgrown := hguar (attempt + 1) (Nat.succ_ne_self attempt)
  have hreturned : ∀ call ∈ system.returned, call.call = .mirror →
      Completed call.runId call.before call.appended after.db := fun call hmem hmirror ↦
    (hreached.returned call hmem hmirror).mono hgrown.workflowLog hgrown.runLog
  have hothers : ∀ other started, other ≠ attempt → system.active other = some started →
      Running hasher after other started := fun other started hother hstarted ↦
    Program.wp_stable (hreached.running other started hstarted) (hguar other hother)
  have hremoved : ∀ other started, Function.update system.active attempt none other = some started →
      Running hasher after other started := by
    intro other started hstarted
    by_cases hother : other = attempt
    · rw [hother, Function.update_self] at hstarted
      cases hstarted
    · rw [Function.update_of_ne hother] at hstarted
      exact hothers other started hother hstarted
  cases rest with
  | done value =>
    refine ⟨hinv, hremoved, fun call hmem hmirror ↦ ?_⟩
    rcases List.mem_append.mp hmem with hold | hnew
    · exact hreturned call hold hmirror
    · obtain rfl := List.mem_singleton.mp hnew
      exact hrest after (ProjectorRely.refl attempt after) hinv hmirror rfl
  | raise error => exact ⟨hinv, hremoved, hreturned⟩
  | call op hscope next =>
    refine ⟨hinv, fun other started hstarted ↦ ?_, hreturned⟩
    by_cases hother : other = attempt
    · subst hother
      change Function.update _ _ _ _ = _ at hstarted
      rw [Function.update_self] at hstarted
      obtain rfl := Option.some.inj hstarted
      exact hrest
    · change Function.update _ _ _ _ = _ at hstarted
      rw [Function.update_of_ne hother] at hstarted
      exact hothers other started hother hstarted

theorem ProjectorReached.step (hreached : ProjectorReached hasher system) (attempt : Nat)
    (reading : Reading) (fault : Option StorageFault) :
    ProjectorReached hasher (system.step hasher attempt reading fault) := by
  unfold ProjectorSystem.step
  split
  · exact hreached
  · next running hactive =>
    split
    · next op hscope next hrest =>
      split
      · next answer after hperform =>
        have hwp := hreached.running attempt running hactive
        unfold Running at hwp
        rw [hrest] at hwp
        obtain ⟨hinv, hguar, hnext⟩ := hwp system.world (ProjectorRely.refl attempt _) hreached.inv
          answer after ⟨reading, fault, hperform⟩
        exact hreached.proceed hactive hinv hguar hnext
      · exact hreached
    · exact hreached

theorem ProjectorReached.serve (hreached : ProjectorReached hasher system) {request : Request}
    (horderly : Orderly system (.request request)) :
    ProjectorReached hasher (system.serve hasher request) := by
  obtain ⟨hfresh, hquiet⟩ := horderly
  obtain ⟨claims, hserve, hclaims⟩ := serve_cases hasher system request
  have hrely : ∀ attempt, ProjectorRely attempt system.world
      (system.world.served hasher request claims) := rely_of_serve hreached.inv hfresh hquiet
  rw [hserve]
  refine ⟨hreached.inv.serve hfresh hquiet hclaims, fun attempt running hactive ↦ ?_,
    fun call hmem hmirror ↦ ?_⟩
  · exact Program.wp_stable (hreached.running attempt running hactive) (hrely attempt)
  · exact (hreached.returned call hmem hmirror).mono (hrely 0).workflowLog (hrely 0).runLog

theorem ProjectorReached.next (hreached : ProjectorReached hasher system) (label : ProjectorLabel)
    (horderly : Orderly system label) :
    ProjectorReached hasher ((projectorMachine hasher).next system label) := by
  cases label with
  | start attempt authority call => exact hreached.start attempt authority call
  | step attempt reading fault => exact hreached.step attempt reading fault
  | request request => exact hreached.serve horderly

theorem projectorReached_run {labels : List ProjectorLabel}
    (hadmits : (projectorMachine hasher).Admits Orderly ProjectorSystem.init labels) :
    ProjectorReached hasher ((projectorMachine hasher).run ProjectorSystem.init labels) := by
  refine (projectorMachine hasher).invariant_run (ProjectorReached hasher)
    (fun state label hreached horderly ↦ hreached.next label horderly) ?_ hadmits
  exact ⟨projectorInv_init, fun attempt running hactive ↦ (Option.some_ne_none _ hactive.symm).elim,
    fun call hmem ↦ (List.not_mem_nil hmem).elim⟩

/-- The database after an event is the one before it, or the result of one request. -/
theorem db_next (hasher : Hasher) (system : ProjectorSystem) (label : ProjectorLabel) :
    ((projectorMachine hasher).next system label).world.db = system.world.db ∨
      ∃ request, ((projectorMachine hasher).next system label).world.db =
        Request.apply hasher system.world.db request := by
  cases label with
  | start attempt authority call =>
    left
    change (system.start attempt authority call).world.db = _
    unfold ProjectorSystem.start
    split <;> rfl
  | step attempt reading fault =>
    change (system.step hasher attempt reading fault).world.db = _ ∨
      ∃ request, (system.step hasher attempt reading fault).world.db = _
    unfold ProjectorSystem.step
    split
    · exact .inl rfl
    · next running hactive =>
      split
      · next op hscope next hrest =>
        split
        · next answer after hperform =>
          have hworld : (system.proceed attempt running after (next answer)).world = after := by
            cases next answer <;> rfl
          rw [hworld]
          cases op with
          | store call =>
            rcases perform_cases ⟨reading, fault, hperform⟩ with
              ⟨-, rfl⟩ | ⟨used, reply, db, hcall, rfl, -⟩
            · exact .inl rfl
            · have happly : Request.apply hasher system.world.db ⟨used, call⟩ = db :=
                apply_of_ok hcall
              exact .inr ⟨⟨used, call⟩, happly.symm⟩
          | _ => cases hperform
        · exact .inl rfl
      · exact .inl rfl
  | request request =>
    right
    obtain ⟨claims, hserve, -⟩ := serve_cases hasher system request
    exact ⟨request, congrArg (fun state ↦ state.world.db) hserve⟩

/-- A request that adds to the log of a Run adds nothing to the workflow log. -/
theorem workflowEvents_of_run {db : Database} {request : Request} {event : EventRow}
    (hmem : event ∈ (request.apply hasher db).runEvents.drop db.runEvents.length) :
    (request.apply hasher db).workflowEvents = db.workflowEvents := by
  obtain ⟨⟨events, hevents, horigin⟩, added, hadded, hcause⟩ := logs_of_apply hasher db request
  rw [hadded, List.drop_left] at hmem
  obtain ⟨-, call, hcall, -⟩ := hcause event hmem
  have hnone : events = [] := by
    refine List.eq_nil_iff_forall_not_mem.mpr fun other hother ↦ ?_
    obtain ⟨-, workflow, hworkflow, -⟩ := horigin other hother
    cases hcall.symm.trans hworkflow
  rw [hevents, hnone, List.append_nil]

/-- Each event that the next step mirrors was in the workflow log before. -/
theorem ProjectorReached.workflowFirst (hreached : ProjectorReached hasher system)
    {label : ProjectorLabel} (horderly : Orderly system label) {event : EventRow}
    (hmem : event ∈ ((projectorMachine hasher).next system label).world.db.runEvents.drop
      system.world.db.runEvents.length) (hmirrored : isMirrored event.eventType = true) :
    ∃ source ∈ system.world.db.workflowEvents, SameEvidence source event := by
  have hnext := (hreached.next label horderly).inv.origin event
    (mem_mirroredEvents.mpr ⟨List.mem_of_mem_drop hmem, hmirrored⟩)
  rcases db_next hasher system label with hsame | ⟨request, hrequest⟩
  · rwa [hsame] at hnext
  · rw [hrequest] at hmem hnext
    rwa [workflowEvents_of_run hmem] at hnext

/-- What the logs and the returned calls of a reachable state look like. -/
structure MirroredOnce (hasher : Hasher) (system : ProjectorSystem) : Prop where
  recorded : ((recordedEvents system.world.db.workflowEvents).map evidenceKey).Nodup
  mirrored : ((mirroredEvents system.world.db.runEvents).map evidenceKey).Nodup
  faithful : ∀ event ∈ mirroredEvents system.world.db.runEvents,
    (∃ source ∈ system.world.db.workflowEvents, SameEvidence source event) ∧
      ∀ source ∈ system.world.db.workflowEvents, evidenceKey source = evidenceKey event →
        source.payload = event.payload
  workflowFirst : ∀ label, Orderly system label →
    ∀ event ∈ ((projectorMachine hasher).next system label).world.db.runEvents.drop
      system.world.db.runEvents.length, isMirrored event.eventType = true →
        ∃ source ∈ system.world.db.workflowEvents, SameEvidence source event
  complete : ∀ call ∈ system.returned, call.call = .mirror →
    Completed call.runId call.before call.appended system.world.db

/-- Whatever the attempts do and wherever their store calls raise, evidence stands once in each log,
in the workflow log first, and what `mirror` leaves behind is complete. -/
theorem evidence_is_mirrored_once (hasher : Hasher) (labels : List ProjectorLabel)
    (horderly : (projectorMachine hasher).Admits Orderly ProjectorSystem.init labels) :
    MirroredOnce hasher ((projectorMachine hasher).run ProjectorSystem.init labels) := by
  have hreached := projectorReached_run horderly
  have hinv := hreached.inv
  refine ⟨hinv.recorded, hinv.mirrored, fun event hmem ↦ ?_, fun label hlabel event hmem hmirrored ↦
    hreached.workflowFirst hlabel hmem hmirrored, hreached.returned⟩
  obtain ⟨source, hsource, hsame⟩ := hinv.origin event hmem
  refine ⟨⟨source, hsource, hsame⟩, fun other hother hkey ↦ ?_⟩
  have hmirrored : isMirrored source.eventType = true :=
    hsame.2.1 ▸ (mem_mirroredEvents.mp hmem).2
  have heq : source = other :=
    hinv.eq_of_key hsource hother hmirrored (hsame.key_eq.trans hkey.symm)
  rw [← heq, hsame.2.2]

end Histories

/-- The first attempt records a decision and loses the reply, a second one takes the Run over and
mirrors the decision while the first one looks into the logs again. -/
def lostReplyHistory : List ProjectorLabel :=
  let authority : ExecutionAuthority := ⟨"acme", "alice", []⟩
  [.request (submitRequest (sampleRun "run_a" "09:00" none)),
    .request ⟨sampleReading 0 "1", .run (.claimNextRun "worker" 30 none)⟩,
    .request ⟨sampleReading 1 "2", .workflow (.createOrGetExecution "run_a" "travel" "h"
      (some "lease_1"))⟩,
    .start 0 authority (.record "planner.decision" "decision:1" [("tool_name", .str "search")]
      (by decide)),
    .step 0 (sampleReading 2 "3") none,
    .step 0 (sampleReading 3 "4") (some (.after "disk I/O error")),
    .request ⟨sampleReading 40000 "5", .run (.claimNextRun "other" 30 none)⟩,
    .start 1 authority .mirror,
    .step 1 (sampleReading 40001 "6") none,
    .start 0 authority .mirror,
    .step 0 (sampleReading 40002 "7") none,
    .step 0 (sampleReading 40003 "8") none,
    .step 1 (sampleReading 40004 "9") none,
    .step 1 (sampleReading 40005 "10") none,
    .step 0 (sampleReading 40006 "11") none]

theorem lost_reply_is_mirrored_once :
    let system := (projectorMachine sampleHasher).run ProjectorSystem.init lostReplyHistory
    system.returned.map ReturnedCall.runId = ["run_a"] ∧
      (mirroredEvents system.world.db.runEvents).map evidenceKey =
        [("run_a", "planner.decision", some "decision:1")] ∧
      MirroredOnce sampleHasher system := by
  have horderly : (projectorMachine sampleHasher).Admits Orderly ProjectorSystem.init
      lostReplyHistory := by decide +kernel
  exact ⟨by decide +kernel, by decide +kernel,
    evidence_is_mirrored_once sampleHasher lostReplyHistory horderly⟩

end AgentRuntime.Execution
