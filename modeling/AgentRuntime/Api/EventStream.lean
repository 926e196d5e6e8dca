import AgentRuntime.Store.NumberedLogs

/-!
# The event stream of a Run

`stream_run_events` polls the events of a Run and sends them to a client, each with its number,
until the Run has ended and a poll brought nothing. Between any two of its steps other processes
write to the store. What a client was sent is a block of the log without a gap or a repetition, from
the number it asked for (`streamed_events_are_a_block`); a stream that ends by itself has sent all
that its last poll could see. The end of the Run is looked up after that poll, so events that were
appended in between are not sent (`stream_misses_the_end`).
-/

set_option autoImplicit false
set_option relaxedAutoImplicit false

namespace AgentRuntime.Api

open Library Store

/-! ### The stream -/

/-- Where `event_stream` stands. -/
inductive StreamPhase where
  /-- At `request.is_disconnected()`. -/
  | waking
  /-- At `list_events_for_tenant`. -/
  | listing
  /-- In the loop over the listed events, with those that are still to be sent. -/
  | sending (rest : List EventRow) (listedNone : Bool)
  /-- At `get_run`. -/
  | checking (listedNone : Bool)
  /-- It returned because the client had gone, or because the Run had ended. -/
  | returned (runEnded : Bool)

/-- The generator of `stream_run_events`: its cursor, what it sent, and where it stands. -/
structure EventStream where
  sequence : Nat
  sent : List EventRow
  phase : StreamPhase

namespace EventStream

/-- A stream that a client opens. -/
def opened (afterSequence : Nat) : EventStream := ⟨afterSequence, [], .waking⟩

/-- The next step of `event_stream`. -/
def step (db : Database) (runId tenantId : String) (disconnected : Bool) (stream : EventStream) :
    EventStream :=
  match stream.phase with
  | .waking => { stream with phase := if disconnected then .returned false else .listing }
  | .listing =>
    let events := listEventsForTenant db runId tenantId stream.sequence
    { stream with phase := .sending events events.isEmpty }
  | .sending [] listedNone => { stream with phase := .checking listedNone }
  | .sending (event :: rest) listedNone =>
    { sequence := event.sequence
      sent := stream.sent ++ [event]
      phase := .sending rest listedNone }
  | .checking listedNone =>
    match getRunForTenant db runId tenantId with
    | none => { stream with phase := .returned true }
    | some run =>
      { stream with
        phase := if run.status.isTerminal && listedNone then .returned true else .waking }
  | .returned _ => stream

end EventStream

/-- A stream over a store. `polled` is the log of the Run as the last poll saw it. -/
structure Streaming where
  db : Database
  stream : EventStream
  polled : List EventRow

/-- Another process calls a store, the stream takes a step, or the client closes it. -/
inductive StreamLabel where
  | request (request : Request)
  | step (disconnected : Bool)
  | close

namespace Streaming

variable (hasher : Hasher) (runId tenantId : String)

def next (state : Streaming) : StreamLabel → Streaming
  | .request request => { state with db := request.apply hasher state.db }
  | .step disconnected =>
    { state with
      stream := state.stream.step state.db runId tenantId disconnected
      polled :=
        match state.stream.phase with
        | .listing => eventsOf state.db.runEvents runId
        | _ => state.polled }
  | .close => { state with stream := { state.stream with phase := .returned false } }

/-- A stream that a client opens on a store. -/
def start (db : Database) (afterSequence : Nat) : Streaming := ⟨db, .opened afterSequence, []⟩

end Streaming

/-- A stream and other processes, in any order. -/
def streamMachine (hasher : Hasher) (runId tenantId : String) (db : Database)
    (afterSequence : Nat) : Machine Streaming StreamLabel where
  init := Streaming.start db afterSequence
  next := Streaming.next hasher runId tenantId

/-! ### What is sent -/

/-- The part of the log that the stream is about. -/
abbrev blockAfter (afterSequence : Nat) (log : List EventRow) : List EventRow :=
  pageOf EventRow.sequence some afterSequence log

theorem sequence_of_view (event shownEvent : EventRow) (hview : some event = some shownEvent) :
    shownEvent.sequence = event.sequence := by
  rw [Option.some.inj hview]

/-- What is sent of the log that was polled, by where the stream stands. -/
def Sent (block sent : List EventRow) : StreamPhase → Prop
  | .sending rest _ => sent ++ rest = block
  | .returned false => sent <+: block
  | .waking | .listing | .checking _ | .returned true => sent = block

theorem Sent.is_part {block sent : List EventRow} {phase : StreamPhase}
    (hsent : Sent block sent phase) : sent <+: block := by
  cases phase with
  | sending rest _ => exact ⟨rest, hsent⟩
  | returned runEnded =>
    cases runEnded with
    | true => exact hsent ▸ List.prefix_rfl
    | false => exact hsent
  | waking | listing | checking => exact hsent ▸ List.prefix_rfl

/-- What holds of a stream and its store. -/
structure StreamInv (runId tenantId : String) (afterSequence : Nat) (state : Streaming) : Prop where
  visible : (findRunForTenant state.db runId tenantId).isSome = true
  sequenced : Sequenced state.db.runEvents runId
  polled : state.polled <+: eventsOf state.db.runEvents runId
  cursor : state.stream.sequence = advance EventRow.sequence afterSequence state.stream.sent
  sent : Sent (blockAfter afterSequence state.polled) state.stream.sent state.stream.phase

section Invariant

variable {hasher : Hasher} {runId tenantId : String} {afterSequence : Nat} {state : Streaming}

/-- A poll of a visible Run lists its log after the cursor. -/
theorem listEventsForTenant_eq_block {db : Database}
    (hvisible : (findRunForTenant db runId tenantId).isSome = true) (cursor : Nat) :
    listEventsForTenant db runId tenantId cursor =
      blockAfter cursor (eventsOf db.runEvents runId) := by
  unfold listEventsForTenant listRunEvents blockAfter pageOf entriesAfter eventsOf
  rw [if_pos hvisible, List.filterMap_some, List.filter_filter]
  refine List.filter_congr fun event _ ↦ ?_
  rw [Bool.and_comm]

theorem blockAfter_mono {log later : List EventRow} (hgrown : log <+: later) (cursor : Nat) :
    blockAfter cursor log <+: blockAfter cursor later := by
  obtain ⟨more, rfl⟩ := hgrown
  refine ⟨blockAfter cursor more, ?_⟩
  unfold blockAfter pageOf
  rw [entriesAfter_append, List.filterMap_append]

theorem StreamInv.requested (hinv : StreamInv runId tenantId afterSequence state)
    (request : Request) : StreamInv runId tenantId afterSequence
      { state with db := request.apply hasher state.db } where
  visible := visible_of_apply request hinv.visible
  sequenced := sequenced_of_apply request hinv.sequenced
  polled := hinv.polled.trans ((runEvents_of_apply hasher state.db request).filter _)
  cursor := hinv.cursor
  sent := hinv.sent

/-- The stream only moves on. -/
theorem StreamInv.moved (hinv : StreamInv runId tenantId afterSequence state)
    {phase : StreamPhase}
    (hsent : Sent (blockAfter afterSequence state.polled) state.stream.sent phase) :
    StreamInv runId tenantId afterSequence
      { state with stream := { state.stream with phase := phase } } :=
  ⟨hinv.visible, hinv.sequenced, hinv.polled, hinv.cursor, hsent⟩

/-- A poll lists what of the log has not been sent. -/
theorem StreamInv.listed (hinv : StreamInv runId tenantId afterSequence state)
    (hphase : state.stream.phase = .listing) :
    state.stream.sent ++ listEventsForTenant state.db runId tenantId state.stream.sequence =
      blockAfter afterSequence (eventsOf state.db.runEvents runId) := by
  have hsent : state.stream.sent = blockAfter afterSequence state.polled := by
    have hsent := hinv.sent
    rw [hphase] at hsent
    exact hsent
  rw [listEventsForTenant_eq_block hinv.visible, hinv.cursor]
  refine (resumed (numbered_of_sequenced hinv.sequenced) sequence_of_view ?_).symm
  rw [hsent]
  exact blockAfter_mono hinv.polled afterSequence

theorem StreamInv.stepped (hinv : StreamInv runId tenantId afterSequence state)
    (disconnected : Bool) : StreamInv runId tenantId afterSequence
      (state.next hasher runId tenantId (.step disconnected)) := by
  have hsent := hinv.sent
  obtain ⟨db, ⟨sequence, sent, phase⟩, polled⟩ := state
  cases phase with
  | waking =>
    refine hinv.moved ?_
    cases disconnected with
    | true => exact hsent ▸ List.prefix_rfl
    | false => exact hsent
  | listing =>
    exact ⟨hinv.visible, hinv.sequenced, List.prefix_rfl, hinv.cursor, hinv.listed rfl⟩
  | sending rest listedNone =>
    cases rest with
    | nil =>
      refine hinv.moved ?_
      have hall : sent ++ [] = blockAfter afterSequence polled := hsent
      rwa [List.append_nil] at hall
    | cons event rest =>
      refine ⟨hinv.visible, hinv.sequenced, hinv.polled, ?_, ?_⟩
      · show event.sequence = advance EventRow.sequence afterSequence (sent ++ [event])
        simp [advance]
      · show sent ++ [event] ++ rest = blockAfter afterSequence polled
        rw [List.append_assoc]
        exact hsent
  | checking listedNone =>
    simp only [Streaming.next, EventStream.step]
    split
    · exact hinv.moved hsent
    · refine hinv.moved ?_
      split_ifs
      · exact hsent
      · exact hsent
  | returned runEnded => exact hinv

/-- Every step keeps the invariant. -/
theorem StreamInv.next (hinv : StreamInv runId tenantId afterSequence state)
    (label : StreamLabel) : StreamInv runId tenantId afterSequence
      (state.next hasher runId tenantId label) := by
  cases label with
  | request request => exact hinv.requested request
  | step disconnected => exact hinv.stepped disconnected
  | close => exact hinv.moved hinv.sent.is_part

end Invariant

/-- What a client is sent is a block of the log. Whatever other processes write between the steps of
the stream, the events that were sent are, without a gap or a repetition, those that the log has
after the number the client asked for, and going on from the last number gives the rest; and a
stream that returned because the Run had ended has sent all that its last poll could see. -/
theorem streamed_events_are_a_block (hasher : Hasher) (history : List Request)
    (runId tenantId : String) (afterSequence : Nat) (labels : List StreamLabel)
    (hvisible : (findRunForTenant ((storeMachine hasher).run Database.empty history) runId
      tenantId).isSome = true) :
    let machine := streamMachine hasher runId tenantId
      ((storeMachine hasher).run Database.empty history) afterSequence
    let state := machine.run machine.init labels
    let log := eventsOf state.db.runEvents runId
    entriesAfter EventRow.sequence afterSequence log =
        state.stream.sent ++ entriesAfter EventRow.sequence state.stream.sequence log ∧
      (state.stream.phase = .returned true → state.polled <+: log ∧
        state.stream.sent = entriesAfter EventRow.sequence afterSequence state.polled) := by
  intro machine state log
  have hstart : StreamInv runId tenantId afterSequence machine.init := by
    refine ⟨hvisible, runSequenced_run hasher history runId, List.nil_prefix, rfl, ?_⟩
    exact rfl
  have hinv : StreamInv runId tenantId afterSequence state :=
    machine.invariant_run (StreamInv runId tenantId afterSequence)
      (fun _ label hkept _ ↦ hkept.next label) hstart (machine.admits_true _ _)
  have hblock (cursor : Nat) (log : List EventRow) :
      blockAfter cursor log = entriesAfter EventRow.sequence cursor log := List.filterMap_some
  constructor
  · have hsent : state.stream.sent <+: blockAfter afterSequence log :=
      hinv.sent.is_part.trans (blockAfter_mono hinv.polled afterSequence)
    have hresumed := resumed (numbered_of_sequenced hinv.sequenced) sequence_of_view hsent
    rw [← hinv.cursor] at hresumed
    simpa only [hblock] using hresumed
  · intro hreturned
    have hsent := hinv.sent
    rw [hreturned] at hsent
    exact ⟨hinv.polled, hsent.trans (hblock _ _)⟩

/-- A queued Run. -/
def queuedRun : List Request :=
  [⟨sampleReading 0 "q", .run (.createRunWithEvent (sampleRun "run_a" "09:00" none)
    "run.queued" [])⟩]

/-- The stream sends that the Run was queued and polls once more, and before it looks at the Run the
Run is cancelled. -/
def lateEnd : List StreamLabel :=
  List.replicate 8 (.step false) ++
    [.request ⟨sampleReading 5 "c", .run (.requestCancelAtomically "run_a" "acme")⟩,
      .request ⟨sampleReading 6 "f", .run .finalizeNextQueuedCancellation⟩, .step false]

/-- The stream returns because the Run has ended, and the events that say so were not sent. -/
theorem stream_misses_the_end :
    let machine := streamMachine sampleHasher "run_a" "acme"
      ((storeMachine sampleHasher).run Database.empty queuedRun) 0
    let state := machine.run machine.init lateEnd
    let log := eventsOf state.db.runEvents "run_a"
    state.stream.phase = .returned true ∧
      state.stream.sent.map EventRow.eventType = ["run.queued"] ∧
      (entriesAfter EventRow.sequence state.stream.sequence log).map EventRow.eventType =
        ["run.cancel_requested", "run.cancelled"] ∧
      state.stream.sent = entriesAfter EventRow.sequence 0 state.polled := by
  have hvisible : (findRunForTenant ((storeMachine sampleHasher).run Database.empty queuedRun)
      "run_a" "acme").isSome = true := by decide +kernel
  obtain ⟨-, hreturned⟩ :=
    streamed_events_are_a_block sampleHasher queuedRun "run_a" "acme" 0 lateEnd hvisible
  have hphase : ((streamMachine sampleHasher "run_a" "acme"
      ((storeMachine sampleHasher).run Database.empty queuedRun) 0).run
        (.start ((storeMachine sampleHasher).run Database.empty queuedRun) 0)
        lateEnd).stream.phase = .returned true := by rfl
  exact ⟨hphase, by decide +kernel, by decide +kernel, (hreturned hphase).2⟩

end AgentRuntime.Api
