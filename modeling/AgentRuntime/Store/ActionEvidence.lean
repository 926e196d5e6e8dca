import AgentRuntime.Store.ActionLedger

/-!
# The evidence ids of external actions

Each event of an external action carries an evidence id made of the action's id and what happened:
prepared, dispatched for the `n`-th time, or settled. No two of these events share type and evidence
id (`actionEvidence_apply` keeps `ActionEvidence`): a prepared action has a fresh id, the count of
its dispatches grows, and a settled action is settled for good.
-/

set_option autoImplicit false
set_option relaxedAutoImplicit false

namespace AgentRuntime.Store

open Library

/-! ### Evidence ids -/

/-- The event belongs to an external action. -/
def isActionType (eventType : String) : Bool :=
  "external_action.".toList.isPrefixOf eventType.toList

/-- The evidence id of a payload, when it is a text. -/
def evidenceId (payload : Payload) : Option String :=
  match payload.get? "evidence_id" with
  | some (.str text) => some text
  | _ => none

/-- What identifies a piece of evidence in a log. -/
def evidenceKey (event : EventRow) : String × String × Option String :=
  (event.runId, event.eventType, evidenceId event.payload)

/-- The pieces of evidence that an action has produced so far: their types and ids. -/
inductive EvidenceOf (action : ExternalActionRow) : String → String → Prop
  | prepared : EvidenceOf action "external_action.prepared"
    ("action:" ++ action.actionId ++ ":prepared")
  | dispatched (count : Nat) (hcount : count ≤ action.dispatchCount) :
    EvidenceOf action "external_action.dispatch_started"
      ("action:" ++ action.actionId ++ ":dispatch:" ++ toString count)
  | settled (status : ExternalActionStatus) (hstatus : status.isTerminal = true)
    (hsettled : action.status.isTerminal = true) :
    EvidenceOf action ("external_action." ++ status.text)
      ("action:" ++ action.actionId ++ ":outcome")

theorem text_append_cancel {left right mark last : String}
    (heq : mark ++ left ++ last = mark ++ right ++ last) : left = right := by
  have hlists := congrArg String.toList heq
  simp only [String.toList_append, List.append_assoc, List.append_cancel_left_eq] at hlists
  exact String.toList_inj.mp (List.append_cancel_right_eq _ _ _ |>.mp hlists)

/-- A text and a number after a colon can be told apart again. -/
theorem numbered_inj {left right : List Char} {count other : Nat}
    (heq : left ++ ':' :: Nat.toDigits 10 count = right ++ ':' :: Nat.toDigits 10 other) :
    left = right ∧ count = other := by
  have hdigits (n : Nat) : ∀ char ∈ (Nat.toDigits 10 n).reverse, (char != ':') = true := by
    intro char hmem
    have hdigit := Nat.isDigit_of_mem_toDigits (by decide) (by decide) (List.mem_reverse.mp hmem)
    rw [bne_iff_ne]
    rintro rfl
    exact absurd hdigit (by decide)
  -- the digits are what stands before the first colon of the reversed text
  have hsplit (text : List Char) (n : Nat) :
      ((text ++ ':' :: Nat.toDigits 10 n).reverse.takeWhile fun char ↦ char != ':') =
        (Nat.toDigits 10 n).reverse := by
    rw [List.reverse_append, List.reverse_cons, List.append_assoc,
      List.takeWhile_append_of_pos (hdigits n)]
    simp
  have hsame : Nat.toDigits 10 count = Nat.toDigits 10 other := by
    rw [← List.reverse_inj, ← hsplit left count, ← hsplit right other, heq]
  have hcount : count = other := by
    calc
      count = Nat.ofDigitChars 10 (Nat.toDigits 10 count) 0 := Nat.ofDigitChars_ten_toDigits.symm
      _ = Nat.ofDigitChars 10 (Nat.toDigits 10 other) 0 := by rw [hsame]
      _ = other := Nat.ofDigitChars_ten_toDigits
  refine ⟨?_, hcount⟩
  rw [hsame] at heq
  exact List.append_cancel_right_eq _ _ _ |>.mp heq

theorem dispatchId_inj {left right : String} {count other : Nat}
    (heq : "action:" ++ left ++ ":dispatch:" ++ toString count =
      "action:" ++ right ++ ":dispatch:" ++ toString other) : left = right ∧ count = other := by
  have hlists := congrArg String.toList heq
  have hmark : ":dispatch:".toList = ":dispatch".toList ++ [':'] := by decide
  have hnumber (n : Nat) : (toString n).toList = Nat.toDigits 10 n := by
    simp
  simp only [String.toList_append, List.append_assoc, List.append_cancel_left_eq, hnumber] at hlists
  rw [hmark, List.append_assoc, List.append_assoc, ← List.append_assoc left.toList,
    ← List.append_assoc right.toList] at hlists
  obtain ⟨htexts, hcount⟩ := numbered_inj hlists
  exact ⟨String.toList_inj.mp (List.append_cancel_right_eq _ _ _ |>.mp htexts), hcount⟩

theorem outcomeType_ne_prepared {status : ExternalActionStatus}
    (hstatus : status.isTerminal = true) :
    "external_action." ++ status.text ≠ "external_action.prepared" := by
  cases status with
  | prepared | dispatching => cases hstatus
  | succeeded | failed | outcomeUnknown => decide

theorem outcomeType_ne_dispatched {status : ExternalActionStatus}
    (hstatus : status.isTerminal = true) :
    "external_action." ++ status.text ≠ "external_action.dispatch_started" := by
  cases status with
  | prepared | dispatching => cases hstatus
  | succeeded | failed | outcomeUnknown => decide

theorem EvidenceOf.isActionType {action : ExternalActionRow} {eventType id : String}
    (hevidence : EvidenceOf action eventType id) : isActionType eventType = true := by
  cases hevidence with
  | prepared => decide
  | dispatched => decide
  | settled status hstatus =>
    cases status with
    | prepared | dispatching => cases hstatus
    | succeeded | failed | outcomeUnknown => decide

/-- The type and the id of a piece of evidence tell its action. -/
theorem EvidenceOf.actionId_eq {action twin : ExternalActionRow}
    {eventType otherType id otherId : String}
    (hevidence : EvidenceOf action eventType id) (hother : EvidenceOf twin otherType otherId)
    (htype : eventType = otherType) (hid : id = otherId) : action.actionId = twin.actionId := by
  cases hevidence with
  | prepared =>
    cases hother with
    | prepared => exact text_append_cancel hid
    | dispatched => exact absurd htype (by decide)
    | settled status hstatus => exact absurd htype.symm (outcomeType_ne_prepared hstatus)
  | dispatched count =>
    cases hother with
    | prepared => exact absurd htype (by decide)
    | dispatched => exact (dispatchId_inj hid).1
    | settled status hstatus => exact absurd htype.symm (outcomeType_ne_dispatched hstatus)
  | settled status hstatus =>
    cases hother with
    | prepared => exact absurd htype (outcomeType_ne_prepared hstatus)
    | dispatched => exact absurd htype (outcomeType_ne_dispatched hstatus)
    | settled => exact text_append_cancel hid

/-- An action has produced no evidence of a dispatch beyond its count. -/
theorem EvidenceOf.count_le {action : ExternalActionRow} {eventType id : String} {count : Nat}
    (hevidence : EvidenceOf action eventType id)
    (htype : eventType = "external_action.dispatch_started")
    (hid : id = "action:" ++ action.actionId ++ ":dispatch:" ++ toString count) :
    count ≤ action.dispatchCount := by
  cases hevidence with
  | prepared => exact absurd htype (by decide)
  | dispatched other hcount => exact (dispatchId_inj hid).2 ▸ hcount
  | settled status hstatus => exact absurd htype (outcomeType_ne_dispatched hstatus)

/-- An action has produced evidence of an outcome only once it is settled. -/
theorem EvidenceOf.terminal {action : ExternalActionRow} {eventType id : String}
    {status : ExternalActionStatus} (hevidence : EvidenceOf action eventType id)
    (hstatus : status.isTerminal = true) (htype : eventType = "external_action." ++ status.text) :
    action.status.isTerminal = true := by
  cases hevidence with
  | prepared => exact absurd htype.symm (outcomeType_ne_prepared hstatus)
  | dispatched => exact absurd htype.symm (outcomeType_ne_dispatched hstatus)
  | settled _ _ hsettled => exact hsettled

/-- What an action produced stays produced while its id stays, its dispatches grow and its end is
kept. -/
theorem EvidenceOf.mono {action next : ExternalActionRow} {eventType id : String}
    (hevidence : EvidenceOf action eventType id) (hactionId : next.actionId = action.actionId)
    (hcount : action.dispatchCount ≤ next.dispatchCount)
    (hterminal : action.status.isTerminal = true → next.status.isTerminal = true) :
    EvidenceOf next eventType id := by
  cases hevidence with
  | prepared => exact hactionId ▸ .prepared
  | dispatched count hle => exact hactionId ▸ .dispatched count (hle.trans hcount)
  | settled status hstatus hsettled =>
    exact hactionId ▸ .settled status hstatus (hterminal hsettled)

theorem stepEndType_quiet (completed : Bool) :
    isActionType (if completed then "step.completed" else "step.failed") = false := by
  cases completed <;> decide

/-! ### The invariant -/

/-- The events of the external actions in a log. -/
def actionEvents (events : List EventRow) : List EventRow :=
  events.filter fun event ↦ isActionType event.eventType

/-- Every action event is a piece of evidence of a stored action, and no two are the same piece. -/
structure ActionEvidence (db : Database) : Prop where
  ids : ∀ key other action twin, db.externalActions.find key = some action →
    db.externalActions.find other = some twin → action.actionId = twin.actionId → key = other
  owned : ∀ event ∈ actionEvents db.workflowEvents, ∃ key action id,
    db.externalActions.find key = some action ∧ evidenceId event.payload = some id ∧
      EvidenceOf action event.eventType id
  distinct : ((actionEvents db.workflowEvents).map evidenceKey).Nodup

theorem actionEvidence_empty : ActionEvidence Database.empty where
  ids key other action twin hfind := by cases hfind
  owned event hmem := by cases hmem
  distinct := List.nodup_nil

/-- The caller does not write action events of its own. -/
def Request.forgesAction (request : Request) : Bool :=
  match request.call with
  | .workflow (.appendEvent _ eventType _ _) => isActionType eventType
  | _ => false

theorem actionEvents_append (events more : List EventRow) :
    actionEvents (events ++ more) = actionEvents events ++ actionEvents more :=
  List.filter_append _ _

/-- Nothing happens to the actions. -/
theorem ActionEvidence.quiet {db after : Database} {events : List EventRow}
    (hevidence : ActionEvidence db) (hactions : after.externalActions = db.externalActions)
    (hlog : after.workflowEvents = db.workflowEvents ++ events)
    (hquiet : ∀ event ∈ events, isActionType event.eventType = false) : ActionEvidence after := by
  have hnone : actionEvents events = [] := by
    rw [actionEvents, List.filter_eq_nil_iff]
    intro event hmem
    rw [hquiet event hmem]
    exact Bool.false_ne_true
  have hsame : actionEvents after.workflowEvents = actionEvents db.workflowEvents := by
    rw [hlog, actionEvents_append, hnone, List.append_nil]
  exact
    { ids := hactions ▸ hevidence.ids
      owned := by
        rw [hsame, hactions]
        exact hevidence.owned
      distinct := hsame ▸ hevidence.distinct }

/-- One event of another kind is written. -/
theorem ActionEvidence.note {db after : Database} {event : EventRow} (hevidence : ActionEvidence db)
    (hactions : after.externalActions = db.externalActions)
    (hlog : after.workflowEvents = db.workflowEvents ++ [event])
    (htype : isActionType event.eventType = false) : ActionEvidence after :=
  hevidence.quiet hactions hlog fun other hmem ↦ by rw [List.mem_singleton.mp hmem, htype]

/-- One action produces a new piece of evidence. -/
theorem ActionEvidence.produce {db after : Database} {event : EventRow} {rest : List EventRow}
    {id : String} (hevidence : ActionEvidence db) (key : String × String) (next : ExternalActionRow)
    (hactions : ∀ other, after.externalActions.find other =
      if other = key then some next else db.externalActions.find other)
    (hkept : ∀ action, db.externalActions.find key = some action →
      next.actionId = action.actionId ∧ action.dispatchCount ≤ next.dispatchCount ∧
        (action.status.isTerminal = true → next.status.isTerminal = true))
    (hfresh : ∀ other twin, db.externalActions.find other = some twin →
      twin.actionId = next.actionId → other = key)
    (hlog : after.workflowEvents = db.workflowEvents ++ event :: rest)
    (hquiet : ∀ other ∈ rest, isActionType other.eventType = false)
    (hid : evidenceId event.payload = some id) (hnext : EvidenceOf next event.eventType id)
    (hnew : ∀ action, db.externalActions.find key = some action →
      ¬ EvidenceOf action event.eventType id) :
    ActionEvidence after := by
  have hrest : actionEvents rest = [] := by
    rw [actionEvents, List.filter_eq_nil_iff]
    intro other hmem
    rw [hquiet other hmem]
    exact Bool.false_ne_true
  have hadded : actionEvents after.workflowEvents =
      actionEvents db.workflowEvents ++ [event] := by
    have hevent : actionEvents [event] = [event] := by
      simp [actionEvents, hnext.isActionType]
    rw [hlog, ← List.singleton_append, actionEvents_append, actionEvents_append, hrest,
      List.append_nil, hevent]
  constructor
  case ids =>
    intro first second action twin hfirst hsecond hsame
    rw [hactions] at hfirst hsecond
    by_cases hfirstKey : first = key
    · by_cases hsecondKey : second = key
      · exact hfirstKey.trans hsecondKey.symm
      · rw [if_pos hfirstKey] at hfirst
        rw [if_neg hsecondKey] at hsecond
        obtain rfl := Option.some.inj hfirst
        exact hfirstKey.trans (hfresh second twin hsecond hsame.symm).symm
    · rw [if_neg hfirstKey] at hfirst
      by_cases hsecondKey : second = key
      · rw [if_pos hsecondKey] at hsecond
        obtain rfl := Option.some.inj hsecond
        exact (hfresh first action hfirst hsame).trans hsecondKey.symm
      · rw [if_neg hsecondKey] at hsecond
        exact hevidence.ids first second action twin hfirst hsecond hsame
  case owned =>
    intro other hmem
    rw [hadded] at hmem
    rcases List.mem_append.mp hmem with hold | hnew
    · obtain ⟨otherKey, action, otherId, hfind, hotherId, hof⟩ := hevidence.owned other hold
      by_cases hkey : otherKey = key
      · subst hkey
        obtain ⟨hactionId, hcount, hterminal⟩ := hkept action hfind
        exact ⟨otherKey, next, otherId, by rw [hactions, if_pos rfl], hotherId,
          hof.mono hactionId hcount hterminal⟩
      · exact ⟨otherKey, action, otherId, by rw [hactions, if_neg hkey, hfind], hotherId, hof⟩
    · obtain rfl := List.mem_singleton.mp hnew
      exact ⟨key, next, id, by rw [hactions, if_pos rfl], hid, hnext⟩
  case distinct =>
    rw [hadded, List.map_append, List.map_singleton, ← List.concat_eq_append, List.nodup_concat]
    refine ⟨fun hmem ↦ ?_, hevidence.distinct⟩
    -- the same piece of evidence would come from the same action, which has not produced it yet
    obtain ⟨other, hother, hkeys⟩ := List.mem_map.mp hmem
    obtain ⟨otherKey, action, otherId, hfind, hotherId, hof⟩ := hevidence.owned other hother
    obtain ⟨-, hrest⟩ := Prod.mk.inj hkeys
    obtain ⟨htypes, hids⟩ := Prod.mk.inj hrest
    have hsameId : otherId = id := by
      rw [hotherId, hid] at hids
      exact Option.some.inj hids
    have hkey : otherKey = key :=
      hfresh otherKey action hfind (hof.actionId_eq hnext htypes hsameId)
    subst hkey
    exact hnew action hfind (htypes ▸ hsameId ▸ hof)

/-! ### The transitions -/

theorem ActionEvidence.prepare {db : Database} {reading : Reading} {runId stepId : String}
    {action : ExternalActionRow} (hevidence : ActionEvidence db)
    (hnone : db.externalActions.find (runId, stepId) = none)
    (hfreshId : ∀ key row, db.externalActions.find key = some row →
      row.actionId ≠ action.actionId) :
    ActionEvidence (appendWorkflowEvent
      { db with externalActions := db.externalActions.insert (runId, stepId) action } runId
      "external_action.prepared" (preparedPayload stepId action) (reading.utcNow 1)) := by
  refine hevidence.produce (runId, stepId) action ?_ ?_ ?_ rfl ?_ rfl .prepared ?_
  · exact fun other ↦ Table.find_insert_of_fresh _ _ other _ hnone
  · intro other hfind
    rw [hnone] at hfind
    cases hfind
  · exact fun other twin hfind hsame ↦ absurd hsame (hfreshId other twin hfind)
  · exact fun other hmem ↦ absurd hmem List.not_mem_nil
  · intro other hfind
    rw [hnone] at hfind
    cases hfind

theorem ActionEvidence.dispatch {db : Database} {reading : Reading} {runId stepId : String}
    {action : ExternalActionRow} {retry : Bool} (hevidence : ActionEvidence db)
    (hfind : db.externalActions.find (runId, stepId) = some action)
    (hopen : action.status.isTerminal = false) :
    ActionEvidence (recordDispatch db reading runId stepId action retry) := by
  have hrewrites : Rewrites db (recordDispatch db reading runId stepId action retry)
      (runId, stepId) action _ [dispatchStarted db reading runId stepId action retry] :=
    rewrites_recordDispatch hfind
  refine hevidence.produce (runId, stepId)
    (dispatchedAction action ("dispatch_" ++ reading.uuid 0) (reading.utcNow 0))
    hrewrites.actions ?_ ?_ hrewrites.log ?_ rfl (.dispatched (action.dispatchCount + 1) le_rfl) ?_
  · intro other hother
    obtain rfl : action = other := Option.some.inj (hfind.symm.trans hother)
    refine ⟨rfl, Nat.le_succ _, fun hterminal ↦ ?_⟩
    rw [hopen] at hterminal
    cases hterminal
  · exact fun other twin hother hsame ↦ hevidence.ids other _ twin action hother hfind hsame
  · exact fun other hmem ↦ absurd hmem List.not_mem_nil
  · intro other hother hof
    obtain rfl : action = other := Option.some.inj (hfind.symm.trans hother)
    have hcount : action.dispatchCount + 1 ≤ action.dispatchCount := hof.count_le rfl rfl
    omega

theorem ActionEvidence.settle {db : Database} {reading : Reading} {runId stepId : String}
    {action : ExternalActionRow} {step : ToolCallRow} {outcome : ExternalActionOutcome}
    (hevidence : ActionEvidence db)
    (hfind : db.externalActions.find (runId, stepId) = some action)
    (hstep : db.toolCalls.find (runId, stepId) = some step)
    (hopen : action.status.isTerminal = false)
    (hterminal : outcome.actionStatus.isTerminal = true) :
    ActionEvidence (recordOutcome db reading runId stepId action step outcome) := by
  have hrewrites : Rewrites db (recordOutcome db reading runId stepId action step outcome)
      (runId, stepId) action _ _ := rewrites_recordOutcome hfind hstep hterminal
  refine hevidence.produce (runId, stepId) (finalizedAction action outcome (reading.utcNow 0))
    hrewrites.actions ?_ ?_ hrewrites.log ?_ rfl (.settled outcome.actionStatus hterminal hterminal)
    ?_
  · intro other hother
    obtain rfl : action = other := Option.some.inj (hfind.symm.trans hother)
    exact ⟨rfl, le_rfl, fun _ ↦ hterminal⟩
  · exact fun other twin hother hsame ↦ hevidence.ids other _ twin action hother hfind hsame
  · intro other hmem
    obtain rfl := List.mem_singleton.mp hmem
    exact stepEndType_quiet _
  · intro other hother hof
    obtain rfl : action = other := Option.some.inj (hfind.symm.trans hother)
    have hsettled := hof.terminal hterminal rfl
    rw [hopen] at hsettled
    cases hsettled

/-- Every transition of the workflow store keeps the action evidence, unless it is an event that the
caller wrote. -/
theorem actionEvidence_of_workflow {db after : Database} {reading : Reading} {call : WorkflowCall}
    (hevidence : ActionEvidence db) (hchange : WorkflowChange db reading call after)
    (hforges : ∀ runId eventType payload token, call = .appendEvent runId eventType payload token →
      isActionType eventType = false) : ActionEvidence after := by
  cases hchange with
  | same hafter => exact hafter ▸ hevidence
  | createExecution runId workflowType inputHash token hcall hnone hafter =>
    subst hafter
    exact hevidence.quiet rfl (List.append_nil _).symm fun event hmem ↦ absurd hmem List.not_mem_nil
  | startExecution runId token row hcall hfind hpending hafter =>
    subst hafter
    exact hevidence.note rfl rfl (show isActionType "workflow.started" = false by decide)
  | finalizeExecution runId status eventType result code row hcall hfind hrunning hafter =>
    subst hafter
    refine hevidence.note rfl rfl (show isActionType eventType = false from ?_)
    cases call <;> cases hcall <;> decide
  | reuseStep source target stepId toolName inputHash token step execution hcall hexecution hrunning
      hnone hcopied hafter =>
    subst hafter
    exact hevidence.note rfl rfl (show isActionType "step.replay_reused" = false by decide)
  | claimFresh runId stepId toolName inputHash maxAttempts token execution hcall hexecution hnone
      hafter =>
    subst hafter
    exact hevidence.note rfl rfl (show isActionType "step.claimed" = false by decide)
  | claimRetry runId stepId toolName inputHash maxAttempts token previous hcall hfind hfailed
      hbudget hafter =>
    subst hafter
    exact hevidence.note rfl rfl (show isActionType "step.claimed" = false by decide)
  | finishStep runId stepId attempt token row status result code eventType outcome hcall hfind hheld
      hafter =>
    subst hafter
    refine hevidence.note rfl rfl (show isActionType eventType = false from ?_)
    rcases hcall with ⟨-, -, -, -, -, rfl, -⟩ | ⟨-, -, -, -, -, rfl, -⟩ <;> decide
  | recoverStep runId stepId token row hcall hfind hrunning hafter =>
    subst hafter
    exact hevidence.note rfl rfl (show isActionType "step.interrupted_recovery" = false by decide)
  | prepareAction runId stepId attempt arguments token step run action hcall hrun hstep hheld hnone
      hfreshKey hfreshId haction hafter =>
    subst hafter
    exact hevidence.prepare hnone fun key row hfind ↦ haction ▸ hfreshId key row hfind
  | beginDispatch runId stepId attempt token action step run hcall hfind hprepared hrun hrunning
      hflag hstep hheld hafter =>
    subst hafter
    exact hevidence.dispatch hfind (by rw [hprepared]; rfl)
  | retryDispatch runId stepId previous attempt token action step hcall hfind hdispatching hmode
      hprevious hstep hheld hafter =>
    subst hafter
    exact hevidence.dispatch hfind (by rw [hdispatching]; rfl)
  | settle settlement outcome action step hcall hchecked hfind hdispatching htoken hstep hheld
      hafter =>
    subst hafter
    exact hevidence.settle hfind hstep (by rw [hdispatching]; rfl)
      (outcomeChecked_of_checkedOutcome hchecked).terminal
  | appendEvent runId eventType payload token execution hcall hexecution hafter =>
    subst hafter
    exact hevidence.note rfl rfl (hforges runId eventType payload token hcall)

theorem actionEvidence_apply (hasher : Hasher) {db : Database} {request : Request}
    (hevidence : ActionEvidence db) (hforges : request.forgesAction = false) :
    ActionEvidence (request.apply hasher db) := by
  rcases ledger_of_apply hasher db request with hsame | ⟨call, hcall, hchange⟩
  · exact hevidence.quiet hsame.2.2.1 (hsame.2.2.2.trans (List.append_nil _).symm)
      fun event hmem ↦ absurd hmem List.not_mem_nil
  · refine actionEvidence_of_workflow hevidence hchange
      fun runId eventType payload token hevent ↦ ?_
    rw [hevent] at hcall
    unfold Request.forgesAction at hforges
    rw [hcall] at hforges
    exact hforges

end AgentRuntime.Store
