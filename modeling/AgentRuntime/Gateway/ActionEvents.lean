import AgentRuntime.Store.NumberedLogs
import AgentRuntime.Store.LedgerIdentity
import AgentRuntime.Execution.ServedRuntimes
import AgentRuntime.Gateway.ToldOutcome

/-!
# Polling the events of an Action

`list_events` checks every event against the ledger before it shows it, so what it shows of an event
is a function of the event alone, of the destination and of the retry mode (`toldEvent`), none of
which changes. The events of a Run are numbered in the order in which they are appended. A client
that polls with the last number it was shown therefore gets every event once.
-/

set_option autoImplicit false
set_option relaxedAutoImplicit false

namespace AgentRuntime.Gateway

open Library Store Execution

namespace ActionProjector

/-! ### What is shown of an event -/

/-- A text of the payload. -/
def eventText (event : EventRow) (key : String) : Option String :=
  match eventValue event key with
  | .str text => some text
  | _ => none

/-- The number of dispatches in the payload; an event of a preparation has none. -/
def toldCount (event : EventRow) : ExternalActionStatus → Nat
  | .prepared => 0
  | _ =>
    match eventValue event "dispatch_count" with
    | .int count => count.toNat
    | _ => 0

/-- A text in the payload of an outcome. -/
def toldText (event : EventRow) (key : String) (status : ExternalActionStatus) : Option String :=
  if status.isTerminal then eventText event key else none

/-- What a client is told of an event of an Action. -/
def toldEvent (destination : String) (retryMode : ExternalActionRetryMode) (event : EventRow) :
    Option ActionEvent :=
  (eventStatuses event.eventType).map fun status ↦
    { sequence := event.sequence
      eventType := event.eventType
      status := status
      destination := destination
      dispatchCount := toldCount event status
      retryMode := retryMode
      providerReference := toldText event "provider_reference" status
      errorCode := toldText event "error_code" status
      createdAt := event.createdAt }

theorem sequence_of_toldEvent {destination : String} {retryMode : ExternalActionRetryMode}
    (event : EventRow) (told : ActionEvent)
    (htold : toldEvent destination retryMode event = some told) :
    told.sequence = event.sequence := by
  obtain ⟨status, -, rfl⟩ := Option.map_eq_some_iff.mp htold
  rfl

section Events

variable {input : DurableActionInput} {action : ExternalActionRecord}
  {step : Option ToolCallRecord} {event : EventRow} {status : ExternalActionStatus}

theorem count_of_eventDispatchCount {count : Nat}
    (hcount : eventDispatchCount action event status = .ok count) :
    count = toldCount event status := by
  cases status with
  | prepared =>
    simp only [eventDispatchCount] at hcount
    split_ifs at hcount
    exact (Except.ok.inj hcount).symm
  | dispatching =>
    simp only [eventDispatchCount] at hcount
    split at hcount
    · next candidate hvalue =>
      split_ifs at hcount
      rw [← Except.ok.inj hcount]
      simp [toldCount, hvalue]
    · cases hcount
  | succeeded | failed | outcomeUnknown =>
    simp only [eventDispatchCount] at hcount
    split_ifs at hcount with hmatches
    rw [← Except.ok.inj hcount]
    simp [toldCount, beq_iff_eq.mp hmatches.1, Json.nat]

/-- The ledger shows an outcome for a terminal status only. -/
theorem outcome_of_open {outcome : Option String × Option String}
    (houtcome : eventOutcome action step status = .ok outcome)
    (hopen : status.isTerminal = false) : outcome = (none, none) := by
  cases status with
  | prepared | dispatching => exact (Except.ok.inj houtcome).symm
  | succeeded | failed | outcomeUnknown => cases hopen

theorem eventText_of_value {key : String} {text : Option String}
    (hvalue : eventValue event key = Json.ofOption Json.str text) : eventText event key = text := by
  unfold eventText
  rw [hvalue]
  cases text with
  | none => rfl
  | some text => rfl

theorem outcome_of_matches {outcome : Option String × Option String}
    (houtcome : eventOutcome action step status = .ok outcome)
    (hmatches : eventOutcomeMatches event status outcome = true) :
    outcome = (toldText event "provider_reference" status, toldText event "error_code" status) := by
  by_cases hterminal : status.isTerminal = true
  · simp only [eventOutcomeMatches, hterminal, Bool.not_true, Bool.false_or, Bool.and_eq_true,
      beq_iff_eq] at hmatches
    unfold toldText
    rw [if_pos hterminal, if_pos hterminal, eventText_of_value hmatches.1,
      eventText_of_value hmatches.2]
  · unfold toldText
    rw [if_neg hterminal, if_neg hterminal]
    exact outcome_of_open houtcome (Bool.eq_false_iff.mpr hterminal)

/-- Whatever the checks against the ledger let through is the view of the event. -/
theorem told_of_projectEvent {told : Option ActionEvent}
    (hproject : projectEvent input action step event = .ok told) :
    told = toldEvent input.destination action.retryMode event := by
  unfold projectEvent at hproject
  unfold toldEvent
  split at hproject
  · next hstatus =>
    rw [hstatus]
    exact (Except.ok.inj hproject).symm
  · next status hstatus =>
    rw [hstatus]
    split at hproject
    · cases hproject
    · split at hproject
      · cases hproject
      · next count hcount =>
        split at hproject
        · cases hproject
        · next outcome houtcome =>
          split_ifs at hproject with hmatches
          have houtcome := outcome_of_matches houtcome (by simpa using hmatches)
          rw [← Except.ok.inj hproject, count_of_eventDispatchCount hcount, houtcome]
          rfl

/-- The loop shows the views of the events, if it lets all of them through. -/
theorem projectEvents_of_forall {events : List EventRow}
    (hall : ∀ event ∈ events, ∃ shown, projectEvent input action step event = .ok shown) :
    projectEvents input action step events =
      .ok (events.filterMap (toldEvent input.destination action.retryMode)) := by
  induction events with
  | nil => rfl
  | cons event rest ih =>
    obtain ⟨shown, hshown⟩ := hall event List.mem_cons_self
    have hrest := ih fun other hother ↦ hall other (List.mem_cons_of_mem _ hother)
    unfold projectEvents
    rw [hshown, hrest, List.filterMap_cons, ← told_of_projectEvent hshown]
    cases shown with
    | none => rfl
    | some told => rfl

theorem forall_of_projectEvents {events : List EventRow} {told : List ActionEvent}
    (hproject : projectEvents input action step events = .ok told) :
    ∀ event ∈ events, ∃ shown, projectEvent input action step event = .ok shown := by
  induction events generalizing told with
  | nil => simp
  | cons event rest ih =>
    unfold projectEvents at hproject
    split at hproject
    · cases hproject
    · next shown hshown =>
      cases hothers : projectEvents input action step rest with
      | error message =>
        rw [hothers] at hproject
        cases hproject
      | ok others => exact List.forall_mem_cons.mpr ⟨⟨shown, hshown⟩, ih hothers⟩

end Events

/-! ### Pages -/

section Pages

variable {gateway : DurableActionGateway} {run : RunRecord} {input : DurableActionInput}
  {db : Database} {cursor : Nat} {told : List ActionEvent}

/-- The page of an action's events. -/
def eventPage (db : Database) (runId : String) (row : ExternalActionRow) (cursor : Nat) :
    List ActionEvent :=
  pageOf EventRow.sequence (toldEvent row.providerName row.retryMode) cursor
    (eventsOf db.workflowEvents runId)

theorem listEvents_eq_entriesAfter (db : Database) (runId : String) (cursor : Nat) :
    Store.listEvents db runId cursor =
      entriesAfter EventRow.sequence cursor (eventsOf db.workflowEvents runId) := by
  unfold Store.listEvents entriesAfter eventsOf
  rw [List.filter_filter]
  refine List.filter_congr fun event _ ↦ ?_
  rw [Bool.and_comm]

theorem destination_of_actionBindingMatches {stepId : String} {row : ExternalActionRow}
    (hbound : actionBindingMatches gateway run input (.of run.runId stepId row) = true) :
    row.providerName = input.destination := by
  unfold actionBindingMatches at hbound
  dsimp only at hbound
  split at hbound
  · cases hbound
  · simp only [Bool.and_eq_true, decide_eq_true_eq] at hbound
    exact hbound.1.1.2.2.2.2

/-- What `list_events` returns is a page of the events of the only action, and it returns the later
pages of the same ledger too. Without an action there are no events. -/
theorem page_of_listEvents
    (hlist : listEvents gateway run (readRunSnapshot db run.runId cursor) = .ok told) :
    told = [] ∧ listExternalActions db run.runId = [] ∨
      ∃ row, db.externalActions.find (run.runId, actionStepId) = some row ∧
        ∀ later, cursor ≤ later → listEvents gateway run (readRunSnapshot db run.runId later) =
          .ok (eventPage db run.runId row later) := by
  unfold listEvents at hlist
  split at hlist
  · cases hlist
  · next input hinput =>
    split at hlist
    · next hactions => exact .inl ⟨(Except.ok.inj hlist).symm, hactions⟩
    · next stepId row hactions =>
      dsimp only at hlist
      split_ifs at hlist with hexecution hbound
      have hmatches := hbound
      simp only [Bool.not_eq_true, Bool.not_eq_false'] at hmatches
      obtain rfl := stepId_of_actionBindingMatches gateway hmatches
      refine .inr ⟨row, find_of_single hactions, fun later hle ↦ ?_⟩
      have hall := forall_of_projectEvents hlist
      have hlater : ∀ event ∈ (readRunSnapshot db run.runId later).events,
          event ∈ (readRunSnapshot db run.runId cursor).events := by
        intro event hmem
        have hmem : event ∈ Store.listEvents db run.runId later := hmem
        show event ∈ Store.listEvents db run.runId cursor
        rw [listEvents_eq_entriesAfter, mem_entriesAfter] at hmem ⊢
        exact ⟨hmem.1, hle.trans_lt hmem.2⟩
      have hlisted : (readRunSnapshot db run.runId later).externalActions =
          [(actionStepId, row)] := hactions
      unfold listEvents
      rw [hinput]
      dsimp only
      rw [hlisted]
      dsimp only
      refine (if_neg hexecution).trans ((if_neg hbound).trans ?_)
      refine (projectEvents_of_forall fun event hmem ↦ hall event (hlater event hmem)).trans ?_
      refine congrArg Except.ok ?_
      unfold eventPage pageOf
      rw [← listEvents_eq_entriesAfter, destination_of_actionBindingMatches hmatches]
      rfl
    · cases hlist

end Pages

end ActionProjector

open ActionProjector

theorem numbered_eventPage {db : Database} {runId : String}
    (hsequenced : Sequenced db.workflowEvents runId) (row : ExternalActionRow) (cursor : Nat) :
    Numbered ActionEvent.sequence (eventPage db runId row cursor) :=
  numbered_pageOf (numbered_of_sequenced hsequenced) sequence_of_toldEvent

/-- Polling loses no event and repeats none. A client reads the events of an Action after some
number, and later, whatever happened in between, after the last number that it was shown. Then it
has seen what a single read at the later time shows, in the order of the numbers; and the second
read succeeds if the single one does. -/
theorem polled_events_are_complete (hasher : Hasher) (runtime : DurableActionGatewayRuntime)
    (labels more : List Label) :
    let machine := attemptMachine hasher runtime.attempt
    let seen := machine.run System.init labels
    let last := machine.run seen more
    ∀ run later cursor first whole, later.runId = run.runId →
      listEvents runtime.gateway run (readRunSnapshot seen.world.db run.runId cursor) =
        .ok first →
      listEvents runtime.gateway later (readRunSnapshot last.world.db later.runId cursor) =
        .ok whole →
      Numbered ActionEvent.sequence whole ∧
        ∃ rest, listEvents runtime.gateway later (readRunSnapshot last.world.db later.runId
            (advance ActionEvent.sequence cursor first)) = .ok rest ∧
          whole = first ++ rest := by
  intro machine seen last run later cursor first whole hrunId hfirst hwhole
  obtain ⟨before, hseen⟩ := storeHistory_of_attempts hasher runtime.attempt System.init labels
  obtain ⟨between, hlast⟩ := storeHistory_of_attempts hasher runtime.attempt seen more
  have hreached : last.world.db =
      (storeMachine hasher).run Database.empty (before ++ between) := by
    rw [(storeMachine hasher).run_append, show last.world.db = _ from hlast,
      show seen.world.db = _ from hseen]
    rfl
  have hsequenced : Sequenced last.world.db.workflowEvents run.runId := by
    rw [hreached]
    exact sequenced_run hasher _ run.runId
  have hsingle := page_of_listEvents hwhole
  have hnumbered : Numbered ActionEvent.sequence whole := by
    rcases hsingle with ⟨rfl, -⟩ | ⟨row, -, hpages⟩
    · exact List.Pairwise.nil
    · obtain rfl : whole = eventPage last.world.db later.runId row cursor :=
        Except.ok.inj (hwhole.symm.trans (hpages cursor le_rfl))
      exact numbered_eventPage (hrunId ▸ hsequenced) row cursor
  refine ⟨hnumbered, ?_⟩
  rcases page_of_listEvents hfirst with ⟨rfl, -⟩ | ⟨row, hfind, hpages⟩
  · exact ⟨whole, hwhole, rfl⟩
  -- The action of the first page is still there, and its events are views of the same log.
  obtain ⟨next, hnext, hsame⟩ : ∃ next, last.world.db.externalActions.find
      (run.runId, actionStepId) = some next ∧ SameAction row next := by
    rw [show last.world.db = _ from hlast]
    exact sameAction_run hasher between hfind
  have hevents : eventsOf seen.world.db.workflowEvents run.runId <+:
      eventsOf last.world.db.workflowEvents run.runId := by
    rw [show last.world.db = _ from hlast]
    exact (workflowEvents_run hasher seen.world.db between).filter _
  obtain ⟨appended, happended⟩ := hevents
  obtain rfl : first = eventPage seen.world.db run.runId row cursor :=
    Except.ok.inj (hfirst.symm.trans (hpages cursor le_rfl))
  rcases hsingle with ⟨-, hnone⟩ | ⟨found, hfound, hlater⟩
  · have hmem := (mem_listExternalActions last.world.db run.runId actionStepId next).mpr hnext
    rw [← hrunId, hnone] at hmem
    cases hmem
  · obtain rfl : next = found := by
      rw [hrunId, hnext] at hfound
      exact Option.some.inj hfound
    have hview : toldEvent next.providerName next.retryMode =
        toldEvent row.providerName row.retryMode := by
      have hidentity := hsame.identity
      rw [show next.providerName = row.providerName from
          congrArg ExternalActionIdentity.providerName hidentity,
        show next.retryMode = row.retryMode from
          congrArg ExternalActionIdentity.retryMode hidentity]
    have hpage (number : Nat) : eventPage last.world.db later.runId next number =
        pageOf EventRow.sequence (toldEvent row.providerName row.retryMode) number
          (eventsOf seen.world.db.workflowEvents run.runId ++ appended) := by
      unfold eventPage
      rw [hview, hrunId, happended]
    have hforward : cursor ≤ advance ActionEvent.sequence cursor
        (eventPage seen.world.db run.runId row cursor) := by
      refine le_advance (numbered_of_sequenced ?_) sequence_of_toldEvent List.prefix_rfl
      rw [show seen.world.db = _ from hseen]
      exact sequenced_run hasher before run.runId
    refine ⟨_, hlater _ hforward, ?_⟩
    obtain rfl : whole = eventPage last.world.db later.runId next cursor :=
      Except.ok.inj (hwhole.symm.trans (hlater cursor le_rfl))
    rw [hpage, hpage]
    refine page_then_rest ?_ sequence_of_toldEvent cursor
    rw [happended]
    exact numbered_of_sequenced hsequenced

/-- What `list_events` answers for `run_1` in a state. -/
def webhookListing (system : System) (cursor : Nat) : Option (List ActionEvent) :=
  (system.world.db.runs.find "run_1").bind fun row ↦
    match listEvents webhookServer.gateway (rowToRun "run_1" row)
      (readRunSnapshot system.world.db "run_1" cursor) with
    | .ok told => some told
    | .error _ => none

theorem webhookListing_eq_some {system : System} {cursor : Nat} {told : List ActionEvent} :
    webhookListing system cursor = some told ↔
      ∃ row, system.world.db.runs.find "run_1" = some row ∧
        listEvents webhookServer.gateway (rowToRun "run_1" row)
          (readRunSnapshot system.world.db "run_1" cursor) = .ok told := by
  unfold webhookListing
  rw [Option.bind_eq_some_iff]
  refine exists_congr fun row ↦ and_congr_right fun _ ↦ ?_
  cases listEvents webhookServer.gateway (rowToRun "run_1" row)
      (readRunSnapshot system.world.db "run_1" cursor) with
  | ok shown => simp
  | error message => simp

set_option maxRecDepth 10000 in
/-- A client that saw the preparation polls again after the provider answered, and gets the dispatch
and the success. -/
theorem polled_webhook_events :
    let machine := attemptMachine sampleHasher webhookServer.attempt
    let seen := machine.run System.init webhookPrepared
    let last := machine.run seen webhookAnswered
    ∃ first rest, webhookListing seen 0 = some first ∧
      first.map ActionEvent.status = [.prepared] ∧
      webhookListing last (advance ActionEvent.sequence 0 first) = some rest ∧
      rest.map ActionEvent.status = [.dispatching, .succeeded] := by
  have hseen : (webhookListing ((attemptMachine sampleHasher webhookServer.attempt).run System.init
      webhookPrepared) 0).map (List.map ActionEvent.status) = some [.prepared] := by decide +kernel
  have hlast : (webhookListing ((attemptMachine sampleHasher webhookServer.attempt).run
      ((attemptMachine sampleHasher webhookServer.attempt).run System.init webhookPrepared)
        webhookAnswered) 0).map (List.map ActionEvent.status) =
      some [.prepared, .dispatching, .succeeded] := by decide +kernel
  obtain ⟨first, hfirst, hprepared⟩ := Option.map_eq_some_iff.mp hseen
  obtain ⟨whole, hwhole, hstatuses⟩ := Option.map_eq_some_iff.mp hlast
  obtain ⟨row, -, hlisted⟩ := webhookListing_eq_some.mp hfirst
  obtain ⟨later, hlater, hcomplete⟩ := webhookListing_eq_some.mp hwhole
  have hpolled := polled_events_are_complete sampleHasher webhookServer webhookPrepared
    webhookAnswered (rowToRun "run_1" row) (rowToRun "run_1" later) 0 first whole rfl
  obtain ⟨-, rest, hrest, happend⟩ := hpolled hlisted hcomplete
  refine ⟨first, rest, hfirst, hprepared, webhookListing_eq_some.mpr ⟨later, hlater, hrest⟩, ?_⟩
  rw [happend, List.map_append, hprepared] at hstatuses
  exact (List.cons.inj hstatuses).2

end AgentRuntime.Gateway
