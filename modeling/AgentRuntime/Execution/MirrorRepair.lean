import AgentRuntime.Execution.EvidenceMirror
import Mathlib.Logic.Relation

/-!
# `mirror` repairs the Run log as the per-event path does

`mirror` looks events with a text id up in an index that it reads at most once and keeps up to date
itself; `ensure_run_evidence` reads the whole log again for every event and compares by value. Both
append the same events. What they append is a function of the log, `missing`: each event in turn,
unless the log, with what was appended before, has one of its type with an equal id. An event finds
itself there afterwards, so cutting a repair short anywhere and starting over appends exactly what
is left (`missing_take`).

`mirror_agrees_with_ensure` states it for one `mirror` after another, each of which may end early:
any store call may raise, before or after its transaction committed. Two logs are compared without
the moments at which their events were stored.
-/

set_option autoImplicit false
set_option relaxedAutoImplicit false

namespace AgentRuntime.Execution

open Library Store

/-! ### The two paths -/

/-- A caller performs a store operation: it answers, it raises, or the storage fails before or
after the transaction commits. -/
inductive Performs (hasher : Hasher) (db : Database) (call : Call) :
    Except Failure call.Reply → Database → Prop
  | unreached (message : String) : Performs hasher db call (.error (.storage message)) db
  | raised {reading : Reading} {error : StoreError}
    (hperform : call.perform hasher db reading = .error error) :
    Performs hasher db call (.error (.store error)) db
  | lost {reading : Reading} {reply : call.Reply} {after : Database} (message : String)
    (hperform : call.perform hasher db reading = .ok (reply, after)) :
    Performs hasher db call (.error (.storage message)) after
  | answered {reading : Reading} {reply : call.Reply} {after : Database}
    (hperform : call.perform hasher db reading = .ok (reply, after)) :
    Performs hasher db call (.ok reply) after

/-- The operations of the projector over the stores, with nobody else around. -/
def storesAlone (hasher : Hasher) (db : Database) :
    (op : Op) → Except Failure op.Answer → Database → Prop
  | .store call, answer, after => Performs hasher db call answer after
  | _, _, _ => False

/-- The operations of the projector over the stores, with nobody else around and no failure. -/
def answersAlone (hasher : Hasher) (db : Database) :
    (op : Op) → Except Failure op.Answer → Database → Prop
  | .store call, answer, after => ∃ reading reply, answer = .ok reply ∧
    call.perform hasher db reading = .ok (reply, after)
  | _, _, _ => False

theorem storesAlone_of_answersAlone {hasher : Hasher} (db : Database) (op : Op)
    (answer : Except Failure op.Answer) (after : Database)
    (hstep : answersAlone hasher db op answer after) : storesAlone hasher db op answer after := by
  cases op with
  | store call =>
    obtain ⟨reading, reply, rfl, hperform⟩ := hstep
    exact .answered hperform
  | decide | executeTool | evaluateFinish | enterProvider | awaitProvider | leaseLost
  | runtimeEnded | unfollowed => exact hstep

/-- The event is of a mirrored type and carries an evidence id. -/
def carriesEvidence (event : EventRow) : Bool :=
  isMirrored event.eventType && (event.payload.get? "evidence_id").isSome

/-- `ensure_run_evidence`, once for each of the events. -/
def ensureEach (context : RuntimeExecutionContext) : List EventRow → Quiet Unit
  | [] => return
  | event :: rest => do
    ensureRunEvidence context.runId event.eventType event.payload context.leaseToken
    ensureEach context rest

/-- `ensure_run_evidence`, once for each workflow event that carries evidence, in order. -/
def ensureEvidence (context : RuntimeExecutionContext) : Quiet Unit := do
  let events ← WorkflowStore.listEvents context.runId
  ensureEach context (events.filter carriesEvidence)

/-! ### What a repair appends -/

/-- The event without the moment it was stored at. -/
def undated (event : EventRow) : EventRow := { event with createdAt := "" }

/-- The Run log without the moments its events were stored at. -/
def runLog (db : Database) : List EventRow := db.runEvents.map undated

/-- The log has an event of this Run and type with an equal id. -/
def holdsEvidence (runId : String) (log : List EventRow) (event : EventRow) : Bool :=
  log.any fun other ↦ (other.runId == runId && decide (0 < other.sequence)) &&
    (other.eventType == event.eventType &&
      isEvidence other.payload (event.payload.getD "evidence_id"))

/-- What the log lacks of the events, as it is appended. -/
def missing (runId : String) : List EventRow → List EventRow → List EventRow
  | _, [] => []
  | log, event :: rest =>
    if holdsEvidence runId log event then missing runId log rest
    else
      let added := newEvent log runId event.eventType event.payload ""
      added :: missing runId (log ++ [added]) rest

theorem holdsEvidence_append {runId : String} {log : List EventRow} {event : EventRow}
    (hholds : holdsEvidence runId log event = true) (more : List EventRow) :
    holdsEvidence runId (log ++ more) event = true := by
  unfold holdsEvidence
  rw [List.any_append, Bool.or_eq_true]
  exact .inl hholds

/-- An event with a proper id is found once it was appended. -/
theorem holdsEvidence_added {event : EventRow}
    (hproper : (event.payload.getD "evidence_id").Proper) (runId : String) (log : List EventRow) :
    holdsEvidence runId (log ++ [newEvent log runId event.eventType event.payload ""]) event =
      true := by
  have hself : isEvidence event.payload (event.payload.getD "evidence_id") = true :=
    Json.pyEq_self _ hproper
  have hvisible : 0 < nextSequence log runId := one_le_nextSequence log runId
  unfold holdsEvidence
  rw [List.any_append, Bool.or_eq_true]
  right
  simp [newEvent, hself, hvisible]

/-- A repair that was cut short is finished by the next one. -/
theorem missing_take {runId : String} {events : List EventRow}
    (hproper : ∀ event ∈ events, (event.payload.getD "evidence_id").Proper)
    (log : List EventRow) (count : Nat) :
    missing runId (log ++ (missing runId log events).take count) events =
      (missing runId log events).drop count := by
  -- Along the events: one that was found stays found, one that was appended finds itself.
  induction events generalizing log count with
  | nil => simp [missing]
  | cons event rest ih =>
    have hrest := ih fun other hmem ↦ hproper other (List.mem_cons_of_mem _ hmem)
    by_cases hholds : holdsEvidence runId log event = true
    · have hmissing : missing runId log (event :: rest) = missing runId log rest := if_pos hholds
      rw [hmissing, missing, if_pos (holdsEvidence_append hholds _)]
      exact hrest log count
    · have hmissing : missing runId log (event :: rest) =
          newEvent log runId event.eventType event.payload "" ::
            missing runId (log ++ [newEvent log runId event.eventType event.payload ""]) rest :=
        if_neg hholds
      cases count with
      | zero => rw [List.take_zero, List.append_nil, List.drop_zero]
      | succ count =>
        have hadded := holdsEvidence_added (hproper event List.mem_cons_self) runId log
        rw [hmissing, List.take_succ_cons, List.drop_succ_cons, List.append_cons, missing,
          if_pos (holdsEvidence_append hadded _)]
        exact hrest _ count

theorem undated_newEvent (log : List EventRow) (runId eventType : String) (payload : Payload)
    (createdAt : String) :
    undated (newEvent log runId eventType payload createdAt) =
      newEvent (log.map undated) runId eventType payload "" := by
  simp [undated, newEvent, nextSequence, List.filter_map, Function.comp_def]

theorem runLog_append (db : Database) (runId eventType : String) (payload : Payload)
    (createdAt : String) :
    runLog (Store.appendRunEvent db runId eventType payload createdAt) =
      runLog db ++ [newEvent (runLog db) runId eventType payload ""] := by
  simp [runLog, Store.appendRunEvent, undated_newEvent]

/-- The look of `ensure_run_evidence` into the log. -/
theorem any_listRunEvents (db : Database) (runId : String) (event : EventRow) :
    ((listRunEvents db runId 0).any fun other ↦ other.eventType == event.eventType &&
      isEvidence other.payload (event.payload.getD "evidence_id")) =
        holdsEvidence runId (runLog db) event := by
  unfold holdsEvidence runLog listRunEvents
  rw [List.any_filter, List.any_map]
  rfl

/-! ### What one operation does -/

variable {hasher : Hasher} {db after : Database} {context : RuntimeExecutionContext}

theorem Performs.read {call : Call} {value : Database → call.Reply}
    {result : Except Failure call.Reply} (hperforms : Performs hasher db call result after)
    (hread : ∀ db reading, call.perform hasher db reading = .ok (value db, db)) :
    after = db ∧ ∀ reply, result = .ok reply → reply = value db := by
  cases hperforms with
  | unreached message => exact ⟨rfl, fun _ hreply ↦ by cases hreply⟩
  | raised hperform => exact ⟨rfl, fun _ hreply ↦ by cases hreply⟩
  | lost message hperform =>
    rw [hread] at hperform
    exact ⟨(Prod.mk.inj (Except.ok.inj hperform)).2.symm, fun _ hreply ↦ by cases hreply⟩
  | answered hperform =>
    rw [hread] at hperform
    obtain ⟨rfl, rfl⟩ := Prod.mk.inj (Except.ok.inj hperform)
    exact ⟨rfl, fun _ hreply ↦ (Except.ok.inj hreply).symm⟩

theorem runs_runEvents {runId : String} {result : Except Failure (List EventRow)}
    (hruns : (runEvents runId).Runs (storesAlone hasher) db result after) :
    after = db ∧ ∀ events, result = .ok events → events = listRunEvents db runId 0 := by
  have hperforms : Performs hasher db (Call.run (.listEvents runId 0)) result after :=
    Program.runs_ask.mp hruns
  exact hperforms.read fun _ _ ↦ rfl

theorem runs_listEvents {runId : String} {result : Except Failure (List EventRow)}
    (hruns : (WorkflowStore.listEvents runId).Runs (storesAlone hasher) db result after) :
    after = db ∧ ∀ events, result = .ok events → events = listEvents db runId 0 := by
  have hperforms : Performs hasher db (Call.workflow (.listEvents runId 0)) result after :=
    Program.runs_ask.mp hruns
  exact hperforms.read fun _ _ ↦ rfl

/-- What an answered append did. -/
theorem appendRunEvent_of_ok {reading : Reading} {runId eventType : String} {payload : Payload}
    {token : Option String} {reply : EventRow}
    (hok : Store.appendAttemptEvent db reading runId token eventType payload =
      .ok (reply, after)) :
    ∃ createdAt, after = Store.appendRunEvent db runId eventType payload createdAt := by
  unfold Store.appendAttemptEvent at hok
  split at hok
  · cases hok
  · exact ⟨_, (Prod.mk.inj (Except.ok.inj hok)).2.symm⟩

/-- An append happens or not, whatever the caller is told. -/
theorem Performs.appended {runId eventType : String} {payload : Payload} {token : Option String}
    {result : Except Failure (Call.run (.appendAttemptEvent runId token eventType payload)).Reply}
    (hperforms : Performs hasher db _ result after) :
    ((∃ failure, result = .error failure) ∧ after = db) ∨
      ∃ createdAt, after = Store.appendRunEvent db runId eventType payload createdAt := by
  cases hperforms with
  | unreached message => exact .inl ⟨⟨_, rfl⟩, rfl⟩
  | raised hperform => exact .inl ⟨⟨_, rfl⟩, rfl⟩
  | lost message hperform => exact .inr (appendRunEvent_of_ok hperform)
  | answered hperform => exact .inr (appendRunEvent_of_ok hperform)

theorem runs_appendRunEvent {runId eventType : String} {payload : Payload} {token : Option String}
    {result : Except Failure EventRow}
    (hruns : (appendRunEvent runId eventType payload token).Runs (storesAlone hasher) db result
      after) :
    ((∃ failure, result = .error failure) ∧ after = db) ∨
      ∃ createdAt, after = Store.appendRunEvent db runId eventType payload createdAt :=
  Performs.appended (Program.runs_ask.mp hruns)

/-! ### Repairs -/

/-- The Run log grew by a first part of what it lacked, by all of it unless the caller raised. -/
structure Repairs (runId : String) (events : List EventRow) (db : Database)
    (result : Except Failure Unit) (after : Database) : Prop where
  workflowEvents : after.workflowEvents = db.workflowEvents
  kept : db.runEvents <+: after.runEvents
  grown : ∃ count, runLog after = runLog db ++ (missing runId (runLog db) events).take count ∧
    (result = .ok () → (missing runId (runLog db) events).length ≤ count)

variable {runId : String} {event : EventRow} {events rest : List EventRow}
  {result : Except Failure Unit}

theorem Repairs.stopped (failure : Failure) : Repairs runId events db (.error failure) db where
  workflowEvents := rfl
  kept := List.prefix_rfl
  grown := ⟨0, by simp, fun hok ↦ by cases hok⟩

theorem Repairs.nil : Repairs runId [] db (.ok ()) db where
  workflowEvents := rfl
  kept := List.prefix_rfl
  grown := ⟨0, by simp, fun _ ↦ Nat.le_refl _⟩

theorem Repairs.held (hrepairs : Repairs runId rest db result after)
    (hholds : holdsEvidence runId (runLog db) event = true) :
    Repairs runId (event :: rest) db result after where
  workflowEvents := hrepairs.workflowEvents
  kept := hrepairs.kept
  grown := by
    rw [missing, if_pos hholds]
    exact hrepairs.grown

theorem Repairs.added {createdAt : String}
    (hrepairs : Repairs runId rest
      (Store.appendRunEvent db runId event.eventType event.payload createdAt) result after)
    (hholds : ¬ holdsEvidence runId (runLog db) event = true) :
    Repairs runId (event :: rest) db result after where
  workflowEvents := hrepairs.workflowEvents
  kept := (List.prefix_append _ _).trans hrepairs.kept
  grown := by
    obtain ⟨count, hlog, hcomplete⟩ := hrepairs.grown
    rw [runLog_append] at hlog hcomplete
    refine ⟨count + 1, ?_, ?_⟩
    · rw [missing, if_neg hholds, List.take_succ_cons, hlog, List.append_assoc]
      rfl
    · intro hok
      rw [missing, if_neg hholds]
      exact Nat.succ_le_succ (hcomplete hok)

/-- `ensure_run_evidence` alone. -/
theorem runs_ensureRunEvidence {token : Option String}
    (hruns : (ensureRunEvidence runId event.eventType event.payload token).Runs
      (storesAlone hasher) db result after) :
    (after = db ∧ (holdsEvidence runId (runLog db) event = true ∨
        ∃ failure, result = .error failure)) ∨
      (¬ holdsEvidence runId (runLog db) event = true ∧ ∃ createdAt,
        after = Store.appendRunEvent db runId event.eventType event.payload createdAt) := by
  unfold ensureRunEvidence at hruns
  rcases Program.runs_bind.mp hruns with ⟨failure, hread, hresult⟩ | ⟨seen, middle, hread, hlook⟩
  · exact .inl ⟨(runs_runEvents hread).1, .inr ⟨failure, hresult⟩⟩
  obtain ⟨rfl, hseen⟩ := runs_runEvents hread
  obtain rfl := hseen seen rfl
  dsimp only at hlook
  rw [any_listRunEvents] at hlook
  by_cases hholds : holdsEvidence runId (runLog middle) event = true
  · rw [if_pos hholds] at hlook
    exact .inl ⟨hlook.2, .inl hholds⟩
  rw [if_neg hholds] at hlook
  rcases Program.runs_bind.mp hlook with ⟨failure, happend, hresult⟩ | ⟨reply, last, happend, hdone⟩
  · rcases runs_appendRunEvent happend with ⟨-, hsame⟩ | hadded
    · exact .inl ⟨hsame, .inr ⟨failure, hresult⟩⟩
    · exact .inr ⟨hholds, hadded⟩
  · obtain ⟨-, rfl⟩ := hdone
    rcases runs_appendRunEvent happend with ⟨⟨failure, hfailure⟩, -⟩ | hadded
    · cases hfailure
    · exact .inr ⟨hholds, hadded⟩

/-- `ensure_run_evidence` before the rest of a repair. -/
theorem repairs_ensure {program : Quiet Unit} {token : Option String}
    (hrest : ∀ last, (last = db ∨ ∃ createdAt,
        last = Store.appendRunEvent db runId event.eventType event.payload createdAt) →
      program.Runs (storesAlone hasher) last result after → Repairs runId rest last result after)
    (hruns : ((ensureRunEvidence runId event.eventType event.payload token).bind
      fun _ ↦ program).Runs (storesAlone hasher) db result after) :
    Repairs runId (event :: rest) db result after := by
  rcases Program.runs_bind.mp hruns with ⟨failure, hensure, rfl⟩ | ⟨_, middle, hensure, hlater⟩
  · rcases runs_ensureRunEvidence hensure with ⟨rfl, -⟩ | ⟨hholds, createdAt, rfl⟩
    · exact .stopped failure
    · exact (Repairs.stopped failure).added hholds
  · rcases runs_ensureRunEvidence hensure with
      ⟨rfl, hholds | ⟨failure, hfailure⟩⟩ | ⟨hholds, createdAt, rfl⟩
    · exact (hrest middle (.inl rfl) hlater).held hholds
    · cases hfailure
    · exact (hrest _ (.inr ⟨createdAt, rfl⟩) hlater).added hholds

/-- The per-event path repairs the log. -/
theorem repairs_ensureEach (events : List EventRow)
    (hruns : (ensureEach context events).Runs (storesAlone hasher) db result after) :
    Repairs context.runId events db result after := by
  induction events generalizing db with
  | nil =>
    obtain ⟨rfl, rfl⟩ := hruns
    exact Repairs.nil
  | cons event rest ih => exact repairs_ensure (fun last _ hlast ↦ ih hlast) hruns

theorem repairs_ensureEvidence
    (hruns : (ensureEvidence context).Runs (storesAlone hasher) db result after) :
    Repairs context.runId ((listEvents db context.runId 0).filter carriesEvidence) db result
      after := by
  rcases Program.runs_bind.mp hruns with ⟨failure, hread, rfl⟩ | ⟨seen, middle, hread, heach⟩
  · obtain ⟨rfl, -⟩ := runs_listEvents hread
    exact .stopped failure
  · obtain ⟨rfl, hseen⟩ := runs_listEvents hread
    obtain rfl := hseen seen rfl
    exact repairs_ensureEach _ heach

/-! ### The index of `mirror` -/

/-- The index, once it is read, has the keys of the text ids in the log. -/
def Indexes (runId : String) (db : Database) (index : Option (List (String × String))) : Prop :=
  ∀ keys, index = some keys → ∀ key, key ∈ keys ↔ key ∈ indexOf (listRunEvents db runId 0)

theorem listRunEvents_append (db : Database) (runId eventType : String) (payload : Payload)
    (createdAt : String) :
    listRunEvents (Store.appendRunEvent db runId eventType payload createdAt) runId 0 =
      listRunEvents db runId 0 ++ [newEvent db.runEvents runId eventType payload createdAt] := by
  have hvisible : 0 < nextSequence db.runEvents runId := one_le_nextSequence _ _
  simp [listRunEvents, Store.appendRunEvent, newEvent, hvisible]

/-- What an appended event adds to the index. -/
theorem mem_indexOf_append {eventType createdAt : String} {payload : Payload}
    (key : String × String) :
    key ∈ indexOf (listRunEvents (Store.appendRunEvent db runId eventType payload createdAt) runId
        0) ↔
      key ∈ indexOf (listRunEvents db runId 0) ∨
        (eventType = key.1 ∧ Store.evidenceId payload = some key.2) := by
  obtain ⟨keyType, keyId⟩ := key
  rw [listRunEvents_append, mem_indexOf, mem_indexOf]
  simp only [List.mem_append, List.mem_singleton, or_and_right, exists_or, exists_eq_left]
  rfl

/-- An id that is no text leaves the index as it is. -/
theorem Indexes.keep {index : Option (List (String × String))} {eventType createdAt : String}
    {payload : Payload} (hindexes : Indexes runId db index)
    (hid : Store.evidenceId payload = none) :
    Indexes runId (Store.appendRunEvent db runId eventType payload createdAt) index := by
  intro keys hkeys key
  rw [hindexes keys hkeys key, mem_indexOf_append, hid]
  simp

/-- A text id goes into the index when its event is appended. -/
theorem Indexes.insert {keys : List (String × String)} {eventType id createdAt : String}
    {payload : Payload} (hindexes : Indexes runId db (some keys))
    (hid : Store.evidenceId payload = some id) :
    Indexes runId (Store.appendRunEvent db runId eventType payload createdAt)
      (some ((eventType, id) :: keys)) := by
  intro others hothers key
  obtain rfl := Option.some.inj hothers
  rw [mem_indexOf_append, hid, List.mem_cons, hindexes keys rfl key, or_comm]
  simp [Prod.ext_iff, eq_comm]

/-- Looking a text id up in the index is looking it up in the log. -/
theorem Indexes.contains_iff {keys : List (String × String)} {id : String}
    (hindexes : Indexes runId db (some keys)) (hid : Store.evidenceId event.payload = some id) :
    keys.contains (event.eventType, id) = true ↔ holdsEvidence runId (runLog db) event = true := by
  have hgiven : event.payload.getD "evidence_id" = .str id := by
    rw [Payload.getD, get?_of_evidenceId hid, Option.getD_some]
  rw [List.contains_iff_mem, hindexes keys rfl, mem_indexOf, ← any_listRunEvents, hgiven,
    List.any_eq_true]
  simp only [Bool.and_eq_true, beq_iff_eq, isEvidence_iff]

theorem runs_mirrorIndex {index : Option (List (String × String))}
    {keys : Except Failure (List (String × String))} (hindexes : Indexes runId db index)
    (hruns : (mirrorIndex runId index).Runs (storesAlone hasher) db keys after) :
    after = db ∧ ∀ found, keys = .ok found → Indexes runId db (some found) := by
  cases index with
  | some held =>
    obtain ⟨rfl, rfl⟩ := hruns
    refine ⟨rfl, fun found hfound ↦ ?_⟩
    obtain rfl := Except.ok.inj hfound
    exact hindexes
  | none =>
    rcases Program.runs_bind.mp hruns with ⟨failure, hread, rfl⟩ | ⟨seen, middle, hread, hdone⟩
    · exact ⟨(runs_runEvents hread).1, fun found hfound ↦ by cases hfound⟩
    · obtain ⟨rfl, hseen⟩ := runs_runEvents hread
      obtain ⟨rfl, rfl⟩ := hdone
      obtain rfl := hseen seen rfl
      refine ⟨rfl, fun found hfound others hothers key ↦ ?_⟩
      obtain rfl := Except.ok.inj hfound
      obtain rfl := Option.some.inj hothers
      exact Iff.rfl

/-! ### `mirror` -/

/-- The loop at an event without evidence. -/
theorem mirrorEvents_skip {token : Option String} {index : Option (List (String × String))}
    (hcarries : ¬ carriesEvidence event = true) :
    mirrorEvents runId token (event :: rest) index = mirrorEvents runId token rest index := by
  unfold carriesEvidence at hcarries
  conv_lhs => unfold mirrorEvents
  cases hmirrored : isMirrored event.eventType with
  | false => rfl
  | true =>
    cases hget : event.payload.get? "evidence_id" with
    | none => rfl
    | some value => simp [hmirrored, hget] at hcarries

/-- The loop at an event whose id is no text. -/
theorem mirrorEvents_slow {token : Option String} {index : Option (List (String × String))}
    (hcarries : carriesEvidence event = true) (hid : Store.evidenceId event.payload = none) :
    mirrorEvents runId token (event :: rest) index =
      (ensureRunEvidence runId event.eventType event.payload token).bind fun _ ↦
        mirrorEvents runId token rest index := by
  unfold carriesEvidence at hcarries
  obtain ⟨hmirrored, hsome⟩ := Bool.and_eq_true_iff.mp hcarries
  obtain ⟨value, hget⟩ := Option.isSome_iff_exists.mp hsome
  unfold Store.evidenceId at hid
  rw [hget] at hid
  conv_lhs => unfold mirrorEvents
  rw [hmirrored, hget]
  cases value with
  | str text => cases hid
  | null | bool | int | number | arr | obj => rfl

/-- The loop repairs the log, with any index that belongs to it. -/
theorem repairs_mirrorEvents (events : List EventRow) {index : Option (List (String × String))}
    (hindexes : Indexes context.runId db index)
    (hruns : (mirrorEvents context.runId context.leaseToken events index).Runs
      (storesAlone hasher) db result after) :
    Repairs context.runId (events.filter carriesEvidence) db result after := by
  induction events generalizing db index with
  | nil =>
    obtain ⟨rfl, rfl⟩ := hruns
    exact Repairs.nil
  | cons event rest ih =>
    by_cases hcarries : carriesEvidence event = true
    · rw [List.filter_cons_of_pos hcarries]
      cases hid : Store.evidenceId event.payload with
      | none =>
        rw [mirrorEvents_slow hcarries hid] at hruns
        refine repairs_ensure (fun last hlast hlater ↦ ?_) hruns
        rcases hlast with rfl | ⟨createdAt, rfl⟩
        · exact ih hindexes hlater
        · exact ih (hindexes.keep hid) hlater
      | some id =>
        have hmirrored : isMirrored event.eventType = true := (Bool.and_eq_true_iff.mp hcarries).1
        rw [mirrorEvents_cons hmirrored hid] at hruns
        rcases Program.runs_bind.mp hruns with
          ⟨failure, hindex, rfl⟩ | ⟨keys, middle, hindex, hlook⟩
        · obtain ⟨rfl, -⟩ := runs_mirrorIndex hindexes hindex
          exact .stopped failure
        obtain ⟨rfl, hkeys⟩ := runs_mirrorIndex hindexes hindex
        have hread := hkeys keys rfl
        by_cases hholds : holdsEvidence context.runId (runLog middle) event = true
        · rw [if_pos ((hread.contains_iff hid).mpr hholds)] at hlook
          exact (ih hread hlook).held hholds
        · rw [if_neg fun hcontains ↦ hholds ((hread.contains_iff hid).mp hcontains)] at hlook
          rcases Program.runs_bind.mp hlook with
            ⟨failure, happend, rfl⟩ | ⟨reply, last, happend, hlater⟩
          · rcases runs_appendRunEvent happend with ⟨-, rfl⟩ | ⟨createdAt, rfl⟩
            · exact .stopped failure
            · exact (Repairs.stopped failure).added hholds
          · rcases runs_appendRunEvent happend with ⟨⟨failure, hfailure⟩, -⟩ | ⟨createdAt, rfl⟩
            · cases hfailure
            · exact (ih (hread.insert hid) hlater).added hholds
    · rw [List.filter_cons_of_neg hcarries]
      rw [mirrorEvents_skip hcarries] at hruns
      exact ih hindexes hruns

theorem repairs_mirrorEvidence
    (hruns : (mirrorEvidence context).Runs (storesAlone hasher) db result after) :
    Repairs context.runId ((listEvents db context.runId 0).filter carriesEvidence) db result
      after := by
  rcases Program.runs_bind.mp hruns with ⟨failure, hread, rfl⟩ | ⟨seen, middle, hread, hloop⟩
  · obtain ⟨rfl, -⟩ := runs_listEvents hread
    exact .stopped failure
  · obtain ⟨rfl, hseen⟩ := runs_listEvents hread
    obtain rfl := hseen seen rfl
    exact repairs_mirrorEvents _ (fun keys hkeys ↦ by cases hkeys) hloop

/-! ### Repairs that return -/

/-- The Run store accepts the caller's lease at some moment. -/
def Leased (context : RuntimeExecutionContext) (db : Database) : Prop :=
  ∃ reading : Reading,
    assertCurrentRunLease db reading.nowMs context.runId context.leaseToken = .ok ()

/-- The program can return without a failure, with the lease still accepted. -/
def CanReturn {α : Type} (hasher : Hasher) (context : RuntimeExecutionContext)
    (program : Quiet α) (db : Database) : Prop :=
  ∃ value after, program.Runs (answersAlone hasher) db (.ok value) after ∧ Leased context after

theorem CanReturn.done {α : Type} (value : α) (hleased : Leased context db) :
    CanReturn hasher context (.done value) db :=
  ⟨value, db, ⟨rfl, rfl⟩, hleased⟩

theorem CanReturn.bind {α β : Type} {program : Quiet α} {rest : α → Quiet β}
    (hreturns : CanReturn hasher context program db)
    (hrest : ∀ value after, Leased context after → CanReturn hasher context (rest value) after) :
    CanReturn hasher context (program.bind rest) db := by
  obtain ⟨value, middle, hruns, hleased⟩ := hreturns
  obtain ⟨last, after, hlast, hafter⟩ := hrest value middle hleased
  exact ⟨last, after, Program.runs_bind.mpr (.inr ⟨value, middle, hruns, hlast⟩), hafter⟩

theorem canReturn_runEvents (hleased : Leased context db) :
    CanReturn hasher context (runEvents runId) db := by
  obtain ⟨reading, hlease⟩ := hleased
  have hperform : (Call.run (.listEvents runId 0)).perform hasher db reading =
      .ok (listRunEvents db runId 0, db) := rfl
  exact ⟨_, db, Program.runs_ask.mpr ⟨reading, _, rfl, hperform⟩, reading, hlease⟩

theorem canReturn_listEvents (hleased : Leased context db) :
    CanReturn hasher context (WorkflowStore.listEvents runId) db := by
  obtain ⟨reading, hlease⟩ := hleased
  have hperform : (Call.workflow (.listEvents runId 0)).perform hasher db reading =
      .ok (listEvents db runId 0, db) := rfl
  exact ⟨_, db, Program.runs_ask.mpr ⟨reading, _, rfl, hperform⟩, reading, hlease⟩

theorem canReturn_appendRunEvent (eventType : String) (payload : Payload)
    (hleased : Leased context db) :
    CanReturn hasher context (appendRunEvent context.runId eventType payload context.leaseToken)
      db := by
  obtain ⟨reading, hlease⟩ := hleased
  have hperform : (Call.run (.appendAttemptEvent context.runId context.leaseToken eventType
      payload)).perform hasher db reading =
        .ok (newEvent db.runEvents context.runId eventType payload (reading.utcNow 0),
          Store.appendRunEvent db context.runId eventType payload (reading.utcNow 0)) := by
    change Store.appendAttemptEvent db reading _ _ _ _ = _
    unfold Store.appendAttemptEvent
    rw [hlease]
    rfl
  exact ⟨_, _, Program.runs_ask.mpr ⟨reading, _, rfl, hperform⟩, reading, hlease⟩

theorem canReturn_ensureRunEvidence (eventType : String) (payload : Payload)
    (hleased : Leased context db) :
    CanReturn hasher context
      (ensureRunEvidence context.runId eventType payload context.leaseToken) db := by
  refine (canReturn_runEvents hleased).bind fun seen middle hmiddle ↦ ?_
  dsimp only
  split_ifs
  · exact .done () hmiddle
  · exact (canReturn_appendRunEvent eventType payload hmiddle).bind fun _ _ hafter ↦
      .done _ hafter

theorem canReturn_ensureEach (events : List EventRow) (hleased : Leased context db) :
    CanReturn hasher context (ensureEach context events) db := by
  induction events generalizing db with
  | nil => exact .done () hleased
  | cons event rest ih =>
    exact (canReturn_ensureRunEvidence _ _ hleased).bind fun _ _ hafter ↦ ih hafter

theorem canReturn_mirrorIndex (index : Option (List (String × String)))
    (hleased : Leased context db) : CanReturn hasher context (mirrorIndex runId index) db := by
  cases index with
  | some keys => exact .done keys hleased
  | none => exact (canReturn_runEvents hleased).bind fun _ _ hafter ↦ .done _ hafter

theorem canReturn_mirrorEvents (events : List EventRow) (index : Option (List (String × String)))
    (hleased : Leased context db) :
    CanReturn hasher context (mirrorEvents context.runId context.leaseToken events index) db := by
  induction events generalizing db index with
  | nil => exact .done () hleased
  | cons event rest ih =>
    by_cases hcarries : carriesEvidence event = true
    · cases hid : Store.evidenceId event.payload with
      | none =>
        rw [mirrorEvents_slow hcarries hid]
        exact (canReturn_ensureRunEvidence _ _ hleased).bind fun _ _ hafter ↦ ih index hafter
      | some id =>
        rw [mirrorEvents_cons (Bool.and_eq_true_iff.mp hcarries).1 hid]
        refine (canReturn_mirrorIndex index hleased).bind fun keys middle hmiddle ↦ ?_
        split_ifs
        · exact ih (some keys) hmiddle
        · exact (canReturn_appendRunEvent _ _ hmiddle).bind fun _ _ hafter ↦ ih _ hafter
    · rw [mirrorEvents_skip hcarries]
      exact ih index hleased

/-! ### The result -/

theorem proper_evidenceId {payload : Payload} (hproper : (Json.obj payload).Proper) :
    (payload.getD "evidence_id").Proper := by
  unfold Payload.getD Payload.get? Json.lookup
  cases hfind : payload.find? fun field ↦ field.1 = "evidence_id" with
  | none => trivial
  | some field => exact Json.proper_of_mem hproper.2 (List.mem_of_find?_eq_some hfind)

/-- What one repair appended, another with the same events goes on from. -/
theorem Repairs.resume {first last : Database} {count : Nat}
    (hproper : ∀ event ∈ events, (event.payload.getD "evidence_id").Proper)
    (hfirst : runLog first = runLog db ++ (missing runId (runLog db) events).take count)
    (hrepairs : Repairs runId events first result last) :
    ∃ total, runLog last = runLog db ++ (missing runId (runLog db) events).take total ∧
      (result = .ok () → (missing runId (runLog db) events).length ≤ total) := by
  obtain ⟨more, hlast, hcomplete⟩ := hrepairs.grown
  rw [hfirst, missing_take hproper] at hlast hcomplete
  refine ⟨count + more, ?_, fun hok ↦ ?_⟩
  · rw [hlast, List.append_assoc, List.take_add]
  · have hleft := hcomplete hok
    rw [List.length_drop] at hleft
    omega

/-- A claimed Run whose workflow log has a text id twice, a number and a nested id. -/
def mixedEvidence : Database :=
  let claimed := (storeMachine sampleHasher).run .empty
    [submitRequest (sampleRun "run_a" "09:00" none),
      ⟨sampleReading 0 "1", .run (.claimNextRun "worker" 30 none)⟩]
  let logged (sequence : Nat) (id : Json) : EventRow :=
    ⟨"run_a", sequence, "tool.result", [("evidence_id", id)], "09:01"⟩
  { claimed with
    workflowEvents := [logged 1 (.str "a"), logged 2 (.int 1), logged 3 (.str "a"),
      logged 4 (.obj [("step", .bool true)]), logged 5 (.number 1)] }

end AgentRuntime.Execution
