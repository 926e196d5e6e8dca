import AgentRuntime.Store.PlanEvidence
import AgentRuntime.Store.QuarantineHold

/-!
# Resolving a quarantine

An operator plans, looks at the plan, and applies it by its id. `PlannedState` is what an apply that
commits stands on: the Run, its checkpoint, the event of its quarantine and its ledger are those the
plan was made of. The commit turns the Run FAILED, which freezes all of them but the checkpoint, and
that only advances (`CheckpointProgress`); so every later apply of the plan finds its own audit
event and the fingerprints it was committed under, and returns it again (`Resolved`).
-/

set_option autoImplicit false
set_option relaxedAutoImplicit false

namespace AgentRuntime.Store

open Library

/-! ### Events of a Run that nobody holds -/

/-- The Run takes no more part in execution: it is quarantined, or it is over. -/
def RunRow.Idle (row : RunRow) : Prop := row.quarantined = true ∨ row.status.isTerminal = true

theorem RunRow.Idle.holdsAttempt {row : RunRow} (hidle : row.Idle) (token : String)
    (reading : Reading) : ¬ HoldsAttempt row token reading := by
  intro hattempt
  rcases hidle with hheld | hterminal
  · exact holdsAttempt_of_quarantined hheld token reading hattempt
  · rw [hattempt.1] at hterminal
    cases hterminal

/-- The types that a step other than a resolution writes for an idle Run. -/
def idleEventTypes : List String := "run.cancel_requested" :: controlPlaneEventTypes

theorem RowChange.idle_notes {db : Database} {reading : Reading} {call : RunCall}
    {runId : String} {row rewritten : RunRow} {notes : List Note}
    (hchange : RowChange db reading call runId row rewritten notes) (hidle : row.Idle) :
    (∀ note ∈ notes, note.eventType ∈ idleEventTypes) ∨
      row.quarantined = true ∧ rewritten.status = .failed := by
  have hnot := hidle.holdsAttempt
  have hqueued : row.status ≠ .queued := by
    intro hqueued
    rcases hidle with hheld | hterminal
    · rw [((quarantined_iff row).mp hheld).1] at hqueued
      cases hqueued
    · rw [hqueued] at hterminal
      cases hterminal
  cases hchange with
  | controlEvent eventType payload hcall htype =>
    refine .inl fun note hmem ↦ ?_
    rw [List.mem_singleton.mp hmem]
    exact List.mem_cons_of_mem _ htype
  | requestCancel =>
    refine .inl fun note hmem ↦ ?_
    rw [List.mem_singleton.mp hmem]
    exact List.mem_cons_self
  | renew | expire | marker => exact .inl (by simp)
  | attemptEvent _ _ _ _ hattempt | fail _ _ _ _ _ _ _ _ hattempt
  | conflict _ _ _ _ _ hattempt | quarantine _ _ _ _ _ hattempt =>
    exact (hnot _ _ hattempt).elim
  | claimQueued _ _ _ _ hcandidate =>
    exact (hqueued ((queuedCandidate_iff db row).mp hcandidate).1).elim
  | takeover _ _ _ _ _ hcandidate =>
    simp only [expiredCandidate, Bool.and_eq_true, beq_iff_eq, bne_iff_ne] at hcandidate
    rcases hidle with hheld | hterminal
    · exact (hcandidate.1.1.2 ((quarantined_iff row).mp hheld).2.1).elim
    · rw [hcandidate.1.1.1.1] at hterminal
      cases hterminal
  | cancelQueued _ hwas => exact (hqueued hwas).elim
  | cancel _ _ _ _ _ hactive _ hlease =>
    exact (hnot _ _ ⟨hactive.resolve_left hqueued, hlease⟩).elim
  | resolve _ _ _ _ _ _ _ _ hheld => exact .inr ⟨hheld, rfl⟩

theorem filter_appendNotes {events : List EventRow} {runId : String} {notes : List Note}
    {select : EventRow → Bool}
    (hmiss : ∀ event : EventRow, event.runId = runId → (∃ note ∈ notes,
      event.eventType = note.eventType) → select event = false) :
    (appendNotes events runId notes).filter select = events.filter select := by
  unfold appendNotes
  induction notes generalizing events with
  | nil => rfl
  | cons note rest ih =>
    rw [List.foldl_cons, ih]
    · have hnew := hmiss (newEvent events runId note.eventType note.payload note.createdAt) rfl
        ⟨note, List.mem_cons_self, rfl⟩
      rw [List.filter_append, List.filter_cons, hnew]
      simp
    · intro event hrun hnote
      obtain ⟨other, hmem, htype⟩ := hnote
      exact hmiss event hrun ⟨other, List.mem_cons_of_mem _ hmem, htype⟩

/-- A selection of events of the Run, none of them of a type that an idle Run gets. -/
def SelectsOwn (runId : String) (select : EventRow → Bool) : Prop :=
  ∀ event, select event = true → event.runId = runId ∧ event.eventType ∉ idleEventTypes

/-- A request writes no selected event for an idle Run, unless it resolves the quarantine. -/
theorem idleEvents_of_change {db after : Database} {reading : Reading} {call : RunCall}
    {runId : String} {row : RunRow} {select : EventRow → Bool}
    (hfind : db.runs.find runId = some row) (hidle : row.Idle)
    (hselect : SelectsOwn runId select) (hchange : RunChange db reading call after) :
    after.runEvents.filter select = db.runEvents.filter select ∨
      row.quarantined = true ∧
        ∃ now, after.runs.find runId = some now ∧ now.status = .failed := by
  have hother {other : String} {notes : List Note} (hne : runId ≠ other) :
      (appendNotes db.runEvents other notes).filter select = db.runEvents.filter select := by
    refine filter_appendNotes fun event hrun _ ↦ ?_
    by_contra hselected
    exact hne ((hselect event (Bool.not_eq_false _ ▸ hselected)).1.symm.trans hrun)
  cases hchange with
  | same htables => exact .inl (by rw [htables.2.1])
  | created run notes hcall hnew hfresh hseed hruns hevents =>
    have hne : runId ≠ run.runId := fun heq ↦ by simp [heq, hfresh] at hfind
    exact .inl (by rw [hevents, hother hne])
  | completed run token other state hcall hcompletion =>
    have hne : runId ≠ run.runId := by
      rintro rfl
      obtain rfl := Option.some.inj (hfind.symm.trans hcompletion.find)
      exact hidle.holdsAttempt _ _ hcompletion.attempt
    exact .inl (by rw [hcompletion.events, hother hne])
  | rewritten other otherRow rewritten notes hrow hrewrite hruns hevents =>
    by_cases heq : runId = other
    · subst heq
      obtain rfl := Option.some.inj (hfind.symm.trans hrow)
      rcases hrewrite.idle_notes hidle with hquiet | ⟨hheld, hfailed⟩
      · left
        rw [hevents]
        refine filter_appendNotes fun event _ hnote ↦ ?_
        obtain ⟨note, hmem, htype⟩ := hnote
        by_contra hselected
        refine (hselect event (Bool.not_eq_false _ ▸ hselected)).2 ?_
        rw [htype]
        exact hquiet note hmem
      · exact .inr ⟨hheld, rewritten, by rw [hruns runId, if_pos rfl], hfailed⟩
    · exact .inl (by rw [hevents, hother heq])

theorem idleEvents_apply {hasher : Hasher} {db : Database} {runId : String} {row : RunRow}
    {select : EventRow → Bool} (hfind : db.runs.find runId = some row) (hidle : row.Idle)
    (hselect : SelectsOwn runId select) (step : FileStep) :
    (step.apply hasher db).runEvents.filter select = db.runEvents.filter select ∨
      row.quarantined = true ∧
        ∃ now, (step.apply hasher db).runs.find runId = some now ∧ now.status = .failed := by
  cases step with
  | advance tenantId threadId checkpoint =>
    obtain ⟨states, hstates⟩ := advanceCheckpoint_frame db tenantId threadId checkpoint
    left
    change (advanceCheckpoint db tenantId threadId checkpoint).runEvents.filter select = _
    rw [hstates]
  | request request =>
    rcases runTables_of_apply hasher db request with hsame | ⟨call, -, hchange⟩
    · exact .inl (congrArg (·.filter select) hsame.2.1)
    · exact idleEvents_of_change hfind hidle hselect hchange

/-- A terminal row stays as it is under every step. -/
theorem terminal_row_file {hasher : Hasher} {db : Database} {runId : String} {row : RunRow}
    (hfind : db.runs.find runId = some row) (hterminal : row.status.isTerminal = true)
    (step : FileStep) : (step.apply hasher db).runs.find runId = some row := by
  cases step with
  | advance tenantId threadId checkpoint =>
    obtain ⟨states, hstates⟩ := advanceCheckpoint_frame db tenantId threadId checkpoint
    change (advanceCheckpoint db tenantId threadId checkpoint).runs.find runId = some row
    rw [hstates]
    exact hfind
  | request request =>
    rcases runTables_of_apply hasher db request with hsame | ⟨call, -, hchange⟩
    · exact (congrArg (·.find runId) hsame.1).trans hfind
    · exact terminal_row_fixed hchange hfind hterminal

/-! ### From the plan to the commit -/

theorem selectsOwn_conflict (runId : String) : SelectsOwn runId fun event ↦
    event.runId == runId && event.eventType == "checkpoint.conflict" &&
      event.payload.getD "disposition" ==
        .str "external_action_reconciliation_quarantined" := by
  intro event hselected
  simp only [Bool.and_eq_true, beq_iff_eq] at hselected
  refine ⟨hselected.1.1, ?_⟩
  rw [hselected.1.2]
  decide

/-- Since the state `planned` the Run was held with its quarantine event, or it is over. -/
def HeldSince (planned : Database) (runId : String) (row : RunRow) (db : Database) : Prop :=
  ∃ now, db.runs.find runId = some now ∧
    (row.HeldAs now ∧ conflictEvent db runId = conflictEvent planned runId ∨
      now.status.isTerminal = true)

theorem heldSince_apply {hasher : Hasher} {planned db : Database} {runId : String} {row : RunRow}
    (hrow : row.quarantined = true) (hsince : HeldSince planned runId row db) (step : FileStep) :
    HeldSince planned runId row (step.apply hasher db) := by
  obtain ⟨now, hfind, hheld | hterminal⟩ := hsince
  · obtain ⟨hheldAs, hconflict⟩ := hheld
    have hnow := hheldAs.quarantined hrow
    rcases idleEvents_apply hfind (.inl hnow) (selectsOwn_conflict runId) step with
      hevents | ⟨-, later, hlater, hfailed⟩
    · have hkept : conflictEvent (step.apply hasher db) runId = conflictEvent planned runId := by
        rw [← hconflict]
        exact congrArg List.getLast? hevents
      cases heldStep_apply hfind hnow step with
      | kept hafter => exact ⟨now, hafter, .inl ⟨hheldAs, hkept⟩⟩
      | cancelRequested reading _ hafter =>
        obtain ⟨flag, time, rfl⟩ := hheldAs
        exact ⟨_, hafter, .inl ⟨⟨true, reading.utcNow 0, rfl⟩, hkept⟩⟩
      | resolved _ _ hafter => exact ⟨_, hafter, .inr rfl⟩
    · exact ⟨later, hlater, .inr (by rw [hfailed]; rfl)⟩
  · exact ⟨now, terminal_row_file hfind hterminal step, .inr hterminal⟩

/-- An eligible plan finds the Run quarantined and all its actions terminal. -/
theorem of_ineligibilityReasons {db : Database} {runId tenantId : String} {row : RunRow}
    (hreasons : ineligibilityReasons db runId tenantId row = []) :
    row.quarantined = true ∧ ∀ stepId action,
      db.externalActions.find (runId, stepId) = some action →
        action.status.isTerminal = true := by
  simp only [ineligibilityReasons, List.append_eq_nil_iff] at hreasons
  obtain ⟨⟨⟨⟨⟨⟨⟨hstatus, hlease⟩, -⟩, -⟩, -⟩, -⟩, hopen⟩, -⟩ := hreasons
  constructor
  · have hmarked : row.status = .running ∧
        row.errorCode = some threadCheckpointReconciliationBlockedCode := by
      by_contra hne
      rw [if_pos (not_and_or.mp hne)] at hstatus
      cases hstatus
    have hcleared : row.leaseCleared = true := by
      by_contra hne
      rw [if_pos (by simpa using hne)] at hlease
      cases hlease
    simp [RunRow.quarantined, hmarked.1, hmarked.2, hcleared]
  · intro stepId action hfind
    have hnone : (actionSummary (actionRows db runId)).prepared = 0 ∧
        (actionSummary (actionRows db runId)).dispatching = 0 := by
      by_contra hne
      rw [if_pos (not_and_or.mp hne)] at hopen
      cases hopen
    have hmem := (mem_actionRows db runId stepId action).mpr hfind
    have hprepared := List.countP_eq_zero.mp hnone.1 _ hmem
    have hdispatching := List.countP_eq_zero.mp hnone.2 _ hmem
    cases hcase : action.status <;> simp_all [ExternalActionStatus.isTerminal]

/-- A committing apply: what it found and what it wrote. -/
structure ResolutionCommit (hasher : Hasher) (db : Database) (reading : Reading)
    (runId tenantId : String) (target : QuarantineResolutionTarget)
    (resolution : QuarantineResolutionKind) (planId subject credential : String)
    (commit : QuarantineResolutionCommit) (after : Database) : Prop where
  fresh : matchingResolutionEvents db runId planId = []
  derived : deriveQuarantinePlan hasher db runId tenantId target resolution = .ok commit.plan
  eligible : commit.plan.eligible = true
  confirmed : commit.plan.planId = some planId
  workflow : commit.workflowEvidenceFingerprint = workflowEvidenceFingerprint hasher db runId
  checkpoint : ∀ row, db.runs.find runId = some row → row.tenantId = tenantId →
    commit.checkpointEvidenceFingerprint =
      checkpointEvidenceFingerprint hasher db tenantId row.threadId
  written : ∃ failure, after = appendRunEvent
    (appendRunEvent
      (updateRun db runId fun row ↦
        failedRow row threadCheckpointConflictCode resolutionError (reading.utcNow 0)) runId
      "quarantine.resolution_applied"
      (auditPayload commit.plan target resolution planId subject credential
        commit.workflowEvidenceFingerprint commit.checkpointEvidenceFingerprint)
      (reading.utcNow 1)) runId "run.failed" failure (reading.utcNow 2)

theorem matching_of_findResolutionEvent {db : Database} {runId planId : String}
    (hnone : findResolutionEvent db runId planId = .ok none) :
    matchingResolutionEvents db runId planId = [] := by
  unfold findResolutionEvent at hnone
  split at hnone
  · next hmatching => exact hmatching
  · split at hnone
    · split_ifs at hnone
      cases Except.ok.inj hnone
    · cases hnone
  · cases hnone

theorem commit_of_applyQuarantineResolution {hasher : Hasher} {db after : Database}
    {reading : Reading} {runId tenantId : String} {target : QuarantineResolutionTarget}
    {resolution : QuarantineResolutionKind} {planId subject credential : String}
    {commit : QuarantineResolutionCommit}
    (hok : applyQuarantineResolution hasher db reading runId tenantId target resolution planId
      subject credential = .ok (commit, after)) (hfirst : commit.reused = false) :
    ResolutionCommit hasher db reading runId tenantId target resolution planId subject credential
      commit after := by
  unfold applyQuarantineResolution at hok
  split at hok
  · cases hok
  · next existing hexisting =>
    split at hok
    · cases hok
    · next plan hplan =>
      simp only at hok
      split at hok
      · split_ifs at hok
        obtain ⟨rfl, -⟩ := Prod.mk.inj (Except.ok.inj hok)
        cases hfirst
      · split_ifs at hok with hstale
        split at hok
        · cases hok
        · obtain ⟨rfl, rfl⟩ := Prod.mk.inj (Except.ok.inj hok)
          simp only [Bool.or_eq_true, Bool.not_eq_true', bne_iff_ne, not_or, not_not,
            Bool.not_eq_false] at hstale
          refine ⟨matching_of_findResolutionEvent hexisting, hplan, hstale.1, hstale.2, rfl, ?_, _,
            rfl⟩
          intro row hfind htenant
          have hrow := (findRunForTenant_eq_some_iff db runId tenantId row).mpr ⟨hfind, htenant⟩
          simp only [hrow, Option.map_some, Option.getD_some]

/-- The state a plan was made of: the Run, its checkpoint, the event of its quarantine and its
ledger. -/
structure PlannedState (planned current : Database) (runId tenantId : String) : Prop where
  run : current.runs.find runId = planned.runs.find runId
  checkpoint : ∀ row, planned.runs.find runId = some row →
    checkpointContent current tenantId row.threadId =
      checkpointContent planned tenantId row.threadId
  conflict : conflictEvent current runId = conflictEvent planned runId
  ledger : SameEvidence runId planned current

/-- A row that was held all along and whose plan id did not change is the same row. -/
theorem RunRow.HeldAs.eq_of_planned {row now : RunRow} (hheld : row.HeldAs now)
    (hsame : SamePlannedRun row now) : now = row := by
  obtain ⟨flag, time, rfl⟩ := hheld
  have hflag : flag = row.cancelRequested := hsame.cancelRequested
  have htime : time = row.updatedAt := hsame.updatedAt
  rw [hflag, htime]

/-- One id, two plans, one plan. -/
theorem plan_eq_of_planned {hasher : Hasher} {planned current : Database}
    {runId tenantId : String} {target : QuarantineResolutionTarget}
    {resolution : QuarantineResolutionKind} {plan other : QuarantineResolutionPlan}
    (hplan : deriveQuarantinePlan hasher planned runId tenantId target resolution = .ok plan)
    (hother : deriveQuarantinePlan hasher current runId tenantId target resolution = .ok other)
    (hstate : PlannedState planned current runId tenantId)
    (heligible : plan.eligible = true) (helse : other.eligible = true)
    (hid : other.planId = plan.planId) : other = plan := by
  unfold deriveQuarantinePlan at hplan hother
  split_ifs at hplan hother
  have hsame : findRunForTenant current runId tenantId =
      findRunForTenant planned runId tenantId := by
    unfold findRunForTenant
    rw [hstate.run]
  rw [hsame] at hother
  cases hrow : findRunForTenant planned runId tenantId with
  | none =>
    rw [hrow] at hplan
    cases hplan
  | some row =>
    have hfind := ((findRunForTenant_eq_some_iff _ _ _ _).mp hrow).1
    have hrevision := (Prod.mk.inj (hstate.checkpoint row hfind)).1
    rw [hrow] at hplan hother
    obtain rfl := Except.ok.inj hplan
    obtain rfl := Except.ok.inj hother
    have hreasons := List.isEmpty_iff.mp heligible
    have hreasons' := List.isEmpty_iff.mp helse
    simp only [hreasons, hreasons', hrevision, hstate.ledger.actions] at hid ⊢
    rw [hid]

/-- An apply that commits under a plan id stands on the state the plan was made of. -/
theorem plannedState_of_commit {hasher : Hasher} (hinjective : hasher.Injective)
    {planned current after : Database} {runId otherRun tenantId otherTenant : String}
    {target other : QuarantineResolutionTarget}
    {resolution otherResolution : QuarantineResolutionKind} {plan : QuarantineResolutionPlan}
    {planId subject credential : String} {reading : Reading} {commit : QuarantineResolutionCommit}
    {row : RunRow} (hplanned : PlannedOn hasher planned runId tenantId target resolution plan row)
    (hid : plan.planId = some planId)
    (hcommit : ResolutionCommit hasher current reading otherRun otherTenant other otherResolution
      planId subject credential commit after)
    (hsince : HeldSince planned runId row current) :
    otherRun = runId ∧ otherTenant = tenantId ∧ other = target ∧ otherResolution = resolution ∧
      PlannedState planned current runId tenantId := by
  obtain ⟨now, hnow⟩ := plannedOn_of_derive hcommit.derived hcommit.eligible
  have hhash : hasher.canonicalHash (planMaterial hasher current otherRun otherTenant now other
      otherResolution) =
        hasher.canonicalHash
          (planMaterial hasher planned runId tenantId row target resolution) := by
    have heq := hnow.planId.symm.trans (hcommit.confirmed.trans (hid.symm.trans hplanned.planId))
    exact String.append_right_inj _ |>.mp (Option.some.inj heq)
  obtain ⟨rfl, rfl, rfl, rfl, hsame, -, hcheckpoint, hledger⟩ :=
    of_planMaterial hinjective hplanned.identifier hnow.identifier hhash
  -- the Run is quarantined at the commit, so it was held since the plan
  obtain ⟨held, hheld, hcase⟩ := hsince
  obtain rfl := Option.some.inj (hheld.symm.trans hnow.find)
  have hrunning := ((quarantined_iff held).mp (of_ineligibilityReasons hnow.reasons).1).1
  rcases hcase with ⟨hheldAs, hconflict⟩ | hterminal
  · have heq := hheldAs.eq_of_planned hsame
    rw [heq] at hcheckpoint
    refine ⟨rfl, rfl, rfl, rfl, ?_, ?_, hconflict, hledger⟩
    · rw [hheld, hplanned.find, heq]
    · intro found hfound
      obtain rfl := Option.some.inj (hplanned.find.symm.trans hfound)
      exact checkpointContent_of_fingerprint hinjective hcheckpoint
  · rw [hrunning] at hterminal
    cases hterminal

/-! ### The audit event -/

theorem mapM_text (texts : List String) : (texts.map Json.str).mapM Decode.text = some texts := by
  induction texts with
  | nil => rfl
  | cons text rest ih =>
    rw [List.map_cons, List.mapM_cons, ih]
    rfl

theorem decode_texts (texts : List String) :
    Decode.texts (.arr (texts.map Json.str)) = some texts :=
  mapM_text texts

theorem decode_optionText (value : Option String) :
    Decode.optionText (textColumn value) = some value := by
  cases value <;> rfl

theorem decode_optionNat (value : Option Nat) :
    Decode.optionNat (Json.ofOption Json.nat value) = some value := by
  cases value <;> rfl

theorem decode_target (target : QuarantineResolutionTarget) :
    Decode.target (targetJson target) = some target := by
  cases target <;> rfl

theorem decode_runStatus (status : RunStatus) :
    Decode.runStatus (.str status.text) = some status := by
  cases status <;> rfl

theorem decode_resolution (resolution : QuarantineResolutionKind) :
    Decode.resolution (.str resolution.text) = some resolution := by
  cases resolution
  rfl

theorem decode_summary (summary : ExternalActionStatusSummary) :
    Decode.summary (summaryJson summary) = some summary := rfl

theorem decode_thread (thread : QuarantineThreadReference) :
    Decode.thread (.obj [("tenant_id", .str thread.tenantId),
      ("reference_kind", .str thread.referenceKind), ("reference", .str thread.reference)]) =
      some thread := rfl

/-- The fields of an encoded plan. -/
def planFields (plan : QuarantineResolutionPlan) : Payload :=
  match planJson plan with
  | .obj fields => fields
  | _ => []

/-- What an eligible plan is encoded to is decoded to it. -/
theorem decode_planJson {plan : QuarantineResolutionPlan} (heligible : plan.eligible = true)
    (hid : plan.planId.isSome = true) (hreasons : plan.ineligibilityReasons = []) :
    Decode.plan (planJson plan) = some plan := by
  have htarget : Decode.target ((planFields plan).getD "target") = some plan.target :=
    decode_target _
  have hresolution : Decode.resolution ((planFields plan).getD "resolution") =
    some plan.resolution := decode_resolution _
  have hplanId : Decode.optionText ((planFields plan).getD "plan_id") = some plan.planId :=
    decode_optionText _
  have hthread : Decode.thread ((planFields plan).getD "thread") = some plan.thread :=
    decode_thread _
  have hstatus : Decode.runStatus ((planFields plan).getD "current_run_status") =
    some plan.currentRunStatus := decode_runStatus _
  have hcode : Decode.optionText ((planFields plan).getD "current_quarantine_code") =
    some plan.currentQuarantineCode := decode_optionText _
  have hbase : Decode.optionNat ((planFields plan).getD "checkpoint_base_revision") =
    some plan.checkpointBaseRevision := decode_optionNat _
  have hsummary : Decode.summary ((planFields plan).getD "external_actions") =
    some plan.externalActions := decode_summary _
  have hevents : Decode.texts ((planFields plan).getD "new_audit_events") =
    some plan.newAuditEvents := decode_texts _
  have hineligible : Decode.texts ((planFields plan).getD "ineligibility_reasons") =
    some plan.ineligibilityReasons := decode_texts _
  have heligible' : Decode.bool ((planFields plan).getD "eligible") = some plan.eligible := rfl
  have hflag : Decode.bool ((planFields plan).getD "cancel_requested") =
    some plan.cancelRequested := rfl
  have hobserved : Decode.nat ((planFields plan).getD "observed_checkpoint_revision") =
    some plan.observedCheckpointRevision := rfl
  have hrequired : Decode.bool ((planFields plan).getD "workflow_reconciliation_required") =
    some plan.workflowReconciliationRequired := rfl
  have htransition : Decode.text ((planFields plan).getD "planned_run_transition") =
    some plan.plannedRunTransition := rfl
  have hdisposition : Decode.text ((planFields plan).getD "thread_disposition") =
    some plan.threadDisposition := rfl
  have hobject : Decode.object (planJson plan) = some (planFields plan) := rfl
  unfold Decode.plan
  rw [hobject, Option.bind_eq_bind, Option.bind_some, htarget, hresolution, heligible', hplanId,
    hthread, hstatus, hcode, hflag, hbase, hobserved, hsummary, hrequired, htransition, hevents,
    hdisposition, hineligible]
  change (if plan.eligible then
      if plan.planId.isNone || !plan.ineligibilityReasons.isEmpty then none else some plan
    else if plan.planId.isSome then none else some plan) = some plan
  rw [if_pos heligible, hreasons, Option.isNone_eq_false_iff.mpr hid]
  rfl

/-! ### After the commit -/

theorem find_action_congr {runId stepId : String} {db after : Database}
    (hsame : SameLedgerOf runId db after) :
    after.externalActions.find (runId, stepId) = db.externalActions.find (runId, stepId) := by
  have hmem (action : ExternalActionRow) :
      after.externalActions.find (runId, stepId) = some action ↔
        db.externalActions.find (runId, stepId) = some action := by
    have hentry := congrArg (((runId, stepId), action) ∈ ·) hsame.actions
    simpa only [List.mem_filter, Table.mem_rows_iff, beq_self_eq_true, and_true, eq_iff_iff]
      using hentry
  exact Option.ext fun action ↦ by simpa only [Option.mem_def] using hmem action

theorem SameLedgerOf.evidence {runId : String} {db after : Database}
    (hsame : SameLedgerOf runId db after) : SameEvidence runId db after where
  execution := hsame.execution
  steps := by
    unfold stepRows
    rw [hsame.steps]
  actions := by
    unfold actionRows
    rw [hsame.actions]
  events := hsame.events

/-- The ledger of a Run that is over, with every action terminal, is frozen. -/
theorem ledger_of_over {hasher : Hasher} {db : Database} {runId : String} {row : RunRow}
    (hfind : db.runs.find runId = some row) (hterminal : row.status.isTerminal = true)
    (hactions : ∀ stepId action, db.externalActions.find (runId, stepId) = some action →
      action.status.isTerminal = true) (step : FileStep) :
    SameLedgerOf runId db (step.apply hasher db) := by
  cases step with
  | advance tenantId threadId checkpoint =>
    obtain ⟨states, hstates⟩ := advanceCheckpoint_frame db tenantId threadId checkpoint
    change SameLedgerOf runId db (advanceCheckpoint db tenantId threadId checkpoint)
    rw [hstates]
    exact ⟨rfl, rfl, rfl, rfl⟩
  | request request =>
    have hidle : row.Idle := .inr hterminal
    rcases ledger_of_unheld hfind hidle.holdsAttempt request with hsame | houtcome
    · exact hsame
    · obtain ⟨_, settlement, action, _, _, -, -, -, -, haction, hdispatching, -⟩ := houtcome
      have hover := hactions settlement.stepId action haction
      rw [hdispatching] at hover
      cases hover

/-- The checkpoint of a thread is the same, or one of a later revision. -/
def CheckpointProgress (db after : Database) (tenantId threadId : String) : Prop :=
  after.threadStates.find (tenantId, threadId) = db.threadStates.find (tenantId, threadId) ∨
    threadRevision db tenantId threadId < threadRevision after tenantId threadId

theorem threadRevision_congr {db after : Database} {tenantId threadId : String}
    (hsame : after.threadStates.find (tenantId, threadId) =
      db.threadStates.find (tenantId, threadId)) :
    threadRevision after tenantId threadId = threadRevision db tenantId threadId := by
  unfold threadRevision
  rw [hsame]

theorem CheckpointProgress.trans {db middle after : Database} {tenantId threadId : String}
    (hfirst : CheckpointProgress db middle tenantId threadId)
    (hsecond : CheckpointProgress middle after tenantId threadId) :
    CheckpointProgress db after tenantId threadId := by
  rcases hfirst with hsame | hlater
  · rcases hsecond with hsame' | hlater'
    · exact .inl (hsame'.trans hsame)
    · exact .inr (threadRevision_congr hsame ▸ hlater')
  · rcases hsecond with hsame' | hlater'
    · exact .inr (threadRevision_congr hsame' ▸ hlater)
    · exact .inr (hlater.trans hlater')

theorem progress_of_advance {db : Database} {tenantId threadId otherTenant otherThread : String}
    {checkpoint : ThreadStateRow} :
    CheckpointProgress db (advanceCheckpoint db otherTenant otherThread checkpoint) tenantId
      threadId := by
  unfold advanceCheckpoint
  split_ifs with hadvance
  · by_cases hkey : (tenantId, threadId) = (otherTenant, otherThread)
    · obtain ⟨rfl, rfl⟩ := Prod.mk.inj hkey
      right
      have hfind : ((db.threadStates.insert (tenantId, threadId) checkpoint).modify
          (tenantId, threadId) fun _ ↦ checkpoint).find (tenantId, threadId) = some checkpoint := by
        rw [Table.find_modify, if_pos rfl]
        cases hold : db.threadStates.find (tenantId, threadId) with
        | none => rw [Table.find_insert_of_fresh _ _ _ _ hold, if_pos rfl, Option.map_some]
        | some row => rw [Table.insert, dif_neg (by simp [hold]), hold, Option.map_some]
      have hrevision : threadRevision { db with
          threadStates := (db.threadStates.insert (tenantId, threadId) checkpoint).modify
            (tenantId, threadId) fun _ ↦ checkpoint } tenantId threadId = checkpoint.revision := by
        unfold threadRevision
        rw [hfind]
      rw [hrevision]
      exact hadvance
    · left
      rw [Table.find_modify, if_neg hkey]
      cases hold : db.threadStates.find (otherTenant, otherThread) with
      | none => rw [Table.find_insert_of_fresh _ _ _ _ hold, if_neg hkey]
      | some row => rw [Table.insert, dif_neg (by simp [hold])]
  · exact .inl rfl

theorem progress_apply {hasher : Hasher} {db : Database} (tenantId threadId : String)
    (step : FileStep) : CheckpointProgress db (step.apply hasher db) tenantId threadId := by
  cases step with
  | advance => exact progress_of_advance
  | request request =>
    change CheckpointProgress db (request.apply hasher db) tenantId threadId
    rcases runTables_of_apply hasher db request with hsame | ⟨call, -, hchange⟩
    · exact .inl (by rw [hsame.2.2])
    · cases hchange with
      | same htables => exact .inl (by rw [htables.2.2])
      | created _ _ _ _ _ _ _ _ hthreads | rewritten _ _ _ _ _ _ _ _ hthreads =>
        exact .inl (by rw [hthreads])
      | completed run token row state hcall hcompletion =>
        by_cases hkey : (tenantId, threadId) = (row.tenantId, row.threadId)
        · obtain ⟨rfl, rfl⟩ := Prod.mk.inj hkey
          right
          have hnow : threadRevision (request.apply hasher db) row.tenantId row.threadId =
              threadRevision db row.tenantId row.threadId + 1 := by
            conv_lhs => unfold threadRevision
            rw [hcompletion.threads, if_pos rfl]
          omega
        · exact .inl (by rw [hcompletion.threads, if_neg hkey])

/-- What stays true of a Run from its resolution in `base` on. -/
structure Resolved (base : Database) (runId tenantId planId : String) (row : RunRow)
    (audit : EventRow) (db : Database) : Prop where
  find : db.runs.find runId = some row
  audited : matchingResolutionEvents db runId planId = [audit]
  ledger : SameLedgerOf runId base db
  checkpoint : CheckpointProgress base db tenantId row.threadId

theorem selectsOwn_resolution (runId planId : String) : SelectsOwn runId fun event ↦
    event.runId == runId && event.eventType == "quarantine.resolution_applied" &&
      event.payload.getD "plan_id" == .str planId := by
  intro event hselected
  simp only [Bool.and_eq_true, beq_iff_eq] at hselected
  refine ⟨hselected.1.1, ?_⟩
  rw [hselected.1.2]
  decide

theorem resolved_apply {hasher : Hasher} {base db : Database} {runId tenantId planId : String}
    {row : RunRow} {audit : EventRow} (hterminal : row.status.isTerminal = true)
    (hactions : ∀ stepId action, base.externalActions.find (runId, stepId) = some action →
      action.status.isTerminal = true)
    (hresolved : Resolved base runId tenantId planId row audit db) (step : FileStep) :
    Resolved base runId tenantId planId row audit (step.apply hasher db) where
  find := terminal_row_file hresolved.find hterminal step
  audited := by
    rcases idleEvents_apply hresolved.find (.inr hterminal) (selectsOwn_resolution runId planId)
      step with hevents | ⟨hheld, -⟩
    · exact hevents.trans hresolved.audited
    · rw [((quarantined_iff row).mp hheld).1] at hterminal
      cases hterminal
  ledger := by
    refine hresolved.ledger.trans (ledger_of_over hresolved.find hterminal ?_ step)
    intro stepId action hfind
    rw [find_action_congr hresolved.ledger] at hfind
    exact hactions stepId action hfind
  checkpoint := hresolved.checkpoint.trans (progress_apply tenantId row.threadId step)

/-- The audit event of a plan is found and decoded again. -/
theorem findResolutionEvent_of_audit {db : Database} {runId planId subject credential : String}
    {workflow checkpoint : String} {plan : QuarantineResolutionPlan} {audit : EventRow}
    (hmatching : matchingResolutionEvents db runId planId = [audit])
    (hpayload : audit.payload = auditPayload plan plan.target plan.resolution planId subject
      credential workflow checkpoint)
    (heligible : plan.eligible = true) (hid : plan.planId = some planId)
    (hreasons : plan.ineligibilityReasons = []) :
    findResolutionEvent db runId planId = .ok (some ⟨plan, workflow, checkpoint⟩) := by
  have hplan : Decode.plan (audit.payload.getD "plan") = some plan := by
    rw [hpayload]
    exact decode_planJson heligible (by rw [hid]; rfl) hreasons
  have hworkflow : Decode.text (audit.payload.getD "workflow_evidence_fingerprint") =
      some workflow := by rw [hpayload]; rfl
  have hcheckpoint : Decode.text (audit.payload.getD "checkpoint_evidence_fingerprint") =
      some checkpoint := by rw [hpayload]; rfl
  have hresolution : audit.payload.getD "resolution" = .str plan.resolution.text := by
    rw [hpayload]; rfl
  have hkind : audit.payload.getD "target_kind" = .str plan.target.kindText := by
    rw [hpayload]; rfl
  unfold findResolutionEvent
  rw [hmatching]
  simp only [hplan, hworkflow, hcheckpoint, hresolution, hkind, hid, ne_eq, not_true_eq_false,
    or_self, if_false]

theorem checkpointProgressIsValid_of_progress (hasher : Hasher) {base db : Database}
    {tenantId threadId : String} (hprogress : CheckpointProgress base db tenantId threadId) :
    checkpointProgressIsValid (threadRevision base tenantId threadId)
      (checkpointEvidenceFingerprint hasher base tenantId threadId)
      (threadRevision db tenantId threadId)
      (checkpointEvidenceFingerprint hasher db tenantId threadId) = true := by
  unfold checkpointProgressIsValid
  rcases hprogress with hsame | hlater
  · have hrevision := threadRevision_congr hsame
    have hcontent : checkpointContent db tenantId threadId =
        checkpointContent base tenantId threadId := by
      unfold checkpointContent
      rw [hrevision, hsame]
    simp [hrevision, checkpointEvidenceFingerprint_congr hcontent]
  · rw [if_neg (by omega), if_neg (by omega)]

/-- A plan that was derived is derived again from the Run's row, whatever became of the rest. -/
theorem derive_of_find (hasher : Hasher) {db : Database} {runId tenantId : String}
    {target : QuarantineResolutionTarget} (resolution : QuarantineResolutionKind) {row : RunRow}
    (htarget : target.identifier = runId) (hfind : db.runs.find runId = some row)
    (htenant : row.tenantId = tenantId) :
    ∃ plan, deriveQuarantinePlan hasher db runId tenantId target resolution = .ok plan ∧
      plan.observedCheckpointRevision = threadRevision db tenantId row.threadId ∧
      plan.eligible = (ineligibilityReasons db runId tenantId row).isEmpty := by
  have hrow := (findRunForTenant_eq_some_iff db runId tenantId row).mpr ⟨hfind, htenant⟩
  unfold deriveQuarantinePlan
  rw [if_neg (not_not_intro htarget), hrow]
  exact ⟨_, rfl, rfl, rfl⟩

theorem reasons_of_derive {hasher : Hasher} {db : Database} {runId tenantId : String}
    {target : QuarantineResolutionTarget} {resolution : QuarantineResolutionKind}
    {plan : QuarantineResolutionPlan} {row : RunRow}
    (hplan : deriveQuarantinePlan hasher db runId tenantId target resolution = .ok plan)
    (hfind : db.runs.find runId = some row) (htenant : row.tenantId = tenantId)
    (heligible : plan.eligible = true) :
    plan.ineligibilityReasons = [] ∧
      plan.observedCheckpointRevision = threadRevision db tenantId row.threadId := by
  have hrow := (findRunForTenant_eq_some_iff db runId tenantId row).mpr ⟨hfind, htenant⟩
  unfold deriveQuarantinePlan at hplan
  split_ifs at hplan
  rw [hrow] at hplan
  obtain rfl := Except.ok.inj hplan
  exact ⟨List.isEmpty_iff.mp heligible, rfl⟩

section Commit

variable {hasher : Hasher} {db after : Database} {reading : Reading} {runId tenantId : String}
  {target : QuarantineResolutionTarget} {resolution : QuarantineResolutionKind}
  {planId subject credential : String} {commit : QuarantineResolutionCommit}
  (hcommit : ResolutionCommit hasher db reading runId tenantId target resolution planId subject
    credential commit after)

include hcommit

/-- The commit writes the Run's row and two events, and nothing else. -/
theorem ResolutionCommit.written_only :
    ∃ audit failure, after = { db with
        runs := db.runs.modify runId fun row ↦
          failedRow row threadCheckpointConflictCode resolutionError (reading.utcNow 0)
        runEvents := db.runEvents ++ [audit, failure] } ∧
      audit.runId = runId ∧ audit.eventType = "quarantine.resolution_applied" ∧
      audit.payload = auditPayload commit.plan target resolution planId subject credential
        commit.workflowEvidenceFingerprint commit.checkpointEvidenceFingerprint ∧
      failure.runId = runId ∧ failure.eventType = "run.failed" := by
  obtain ⟨payload, hwritten⟩ := hcommit.written
  subst hwritten
  refine ⟨?_, ?_, ?_, ?_, ?_, ?_, ?_, ?_⟩
  rotate_left 2
  · simp only [appendRunEvent, updateRun, List.append_assoc, List.cons_append, List.nil_append]
    rfl
  all_goals rfl

/-- Right after the commit the Run is resolved. -/
theorem ResolutionCommit.resolved :
    ∃ row audit, Resolved after runId tenantId planId row audit after ∧ row.status = .failed ∧
      row.tenantId = tenantId ∧ commit.plan.observedCheckpointRevision =
        threadRevision after tenantId row.threadId ∧
      commit.workflowEvidenceFingerprint = workflowEvidenceFingerprint hasher after runId ∧
      commit.checkpointEvidenceFingerprint =
        checkpointEvidenceFingerprint hasher after tenantId row.threadId ∧
      commit.plan.ineligibilityReasons = [] ∧
      audit.payload = auditPayload commit.plan target resolution planId subject credential
        commit.workflowEvidenceFingerprint commit.checkpointEvidenceFingerprint := by
  obtain ⟨row, hplanned⟩ := plannedOn_of_derive hcommit.derived hcommit.eligible
  obtain ⟨hreasons, hobserved⟩ :=
    reasons_of_derive hcommit.derived hplanned.find hplanned.tenant hcommit.eligible
  obtain ⟨audit, failure, rfl, haudit, htype, hpayload, hfailure, hfailed⟩ := hcommit.written_only
  refine ⟨failedRow row threadCheckpointConflictCode resolutionError (reading.utcNow 0), audit,
    ⟨?_, ?_, .refl runId _, .inl rfl⟩, rfl, hplanned.tenant, hobserved, hcommit.workflow,
    hcommit.checkpoint row hplanned.find hplanned.tenant, hreasons, hpayload⟩
  · exact (Table.find_modify _ _ _ _).trans (by rw [if_pos rfl, hplanned.find, Option.map_some])
  · have hid : audit.payload.getD "plan_id" = .str planId := by rw [hpayload]; rfl
    have hfresh := hcommit.fresh
    unfold matchingResolutionEvents at hfresh ⊢
    rw [List.filter_append, hfresh]
    simp [haudit, htype, hid, hfailed]

end Commit

/-- An eligible plan that nobody applied yet commits where it was made. -/
theorem commit_of_eligible {hasher : Hasher} {db : Database} {runId tenantId planId : String}
    {target : QuarantineResolutionTarget} {resolution : QuarantineResolutionKind}
    {plan : QuarantineResolutionPlan}
    (hplan : planQuarantineResolution hasher db runId tenantId target resolution = .ok plan)
    (heligible : plan.eligible = true) (hid : plan.planId = some planId)
    (hfresh : matchingResolutionEvents db runId planId = []) (reading : Reading)
    (subject credential : String) :
    ∃ commit after, applyQuarantineResolution hasher db reading runId tenantId target resolution
      planId subject credential = .ok (commit, after) ∧ commit.reused = false := by
  obtain ⟨row, hplanned⟩ := plannedOn_of_derive hplan heligible
  have hrow := (findRunForTenant_eq_some_iff db runId tenantId row).mpr
    ⟨hplanned.find, hplanned.tenant⟩
  have hheld := (of_ineligibilityReasons hplanned.reasons).1
  have hnone : findResolutionEvent db runId planId = .ok none := by
    unfold findResolutionEvent
    rw [hfresh]
  have hderived : deriveQuarantinePlan hasher db runId tenantId target resolution = .ok plan :=
    hplan
  unfold applyQuarantineResolution
  simp only [hnone, hderived, hrow, heligible, hid, Option.filter_some, hheld, Bool.not_true,
    bne_self_eq_false, Bool.or_self, Bool.false_eq_true, if_false, if_true]
  exact ⟨_, _, rfl, rfl⟩

/-- An apply of a resolved plan returns the commit again. -/
theorem replay_of_resolved {hasher : Hasher} {base db : Database} {reading : Reading}
    {runId tenantId planId subject credential operator key : String} {row : RunRow}
    {audit : EventRow} {target : QuarantineResolutionTarget}
    {resolution : QuarantineResolutionKind} {commit : QuarantineResolutionCommit}
    (hresolved : Resolved base runId tenantId planId row audit db)
    (htenant : row.tenantId = tenantId) (hidentifier : target.identifier = runId)
    (htarget : commit.plan.target = target) (hresolution : commit.plan.resolution = resolution)
    (heligible : commit.plan.eligible = true) (hid : commit.plan.planId = some planId)
    (hreasons : commit.plan.ineligibilityReasons = [])
    (hobserved : commit.plan.observedCheckpointRevision =
      threadRevision base tenantId row.threadId)
    (hworkflow : commit.workflowEvidenceFingerprint =
      workflowEvidenceFingerprint hasher base runId)
    (hcheckpoint : commit.checkpointEvidenceFingerprint =
      checkpointEvidenceFingerprint hasher base tenantId row.threadId)
    (hpayload : audit.payload = auditPayload commit.plan target resolution planId subject credential
      commit.workflowEvidenceFingerprint commit.checkpointEvidenceFingerprint) :
    applyQuarantineResolution hasher db reading runId tenantId target resolution planId operator
      key = .ok ({ commit with reused := true }, db) := by
  subst htarget hresolution
  obtain ⟨plan, hplan, hrevision, -⟩ := derive_of_find hasher commit.plan.resolution hidentifier
    hresolved.find htenant
  have hrow := (findRunForTenant_eq_some_iff db runId tenantId row).mpr ⟨hresolved.find, htenant⟩
  have hstored := findResolutionEvent_of_audit hresolved.audited hpayload heligible hid hreasons
  have hledger : workflowEvidenceFingerprint hasher db runId =
      commit.workflowEvidenceFingerprint := by
    rw [workflowEvidenceFingerprint_congr hresolved.ledger.evidence, hworkflow]
  have hprogress := checkpointProgressIsValid_of_progress hasher hresolved.checkpoint
  rw [← hobserved, ← hcheckpoint, ← hrevision] at hprogress
  unfold applyQuarantineResolution
  simp only [hstored, hplan, hrow, Option.map_some, Option.getD_some, hledger, hprogress, ne_eq,
    not_true_eq_false, or_self, if_false]

/-- A quarantine is resolved at most once, and only against the evidence that was planned. Let a
plan be eligible in some state, and let an apply under its id be the one that commits, after any
requests and foreign checkpoints. Then it found the Run, its checkpoint, the event of its quarantine
and its ledger as planned; it wrote the Run's row and two events and nothing else; and in every
later state a further apply of the same target, resolution and id returns the same commit as reused
and writes nothing, while no apply for the Run commits again. -/
theorem resolution_applies_plan_once (hasher : Hasher) (hinjective : hasher.Injective)
    (planned : Database) (runId tenantId planId : String) (target : QuarantineResolutionTarget)
    (resolution : QuarantineResolutionKind) (plan : QuarantineResolutionPlan)
    (hplan : planQuarantineResolution hasher planned runId tenantId target resolution = .ok plan)
    (heligible : plan.eligible = true) (hid : plan.planId = some planId) (more : List FileStep)
    (reading : Reading) (otherRun otherTenant subject credential : String)
    (other : QuarantineResolutionTarget) (otherResolution : QuarantineResolutionKind)
    (commit : QuarantineResolutionCommit) (after : Database)
    (hcommit : applyQuarantineResolution hasher ((fileMachine hasher).run planned more) reading
      otherRun otherTenant other otherResolution planId subject credential = .ok (commit, after))
    (hfirst : commit.reused = false) :
    let current := (fileMachine hasher).run planned more
    PlannedState planned current runId tenantId ∧ commit.plan = plan ∧
      (∃ audit failure, after = { current with
          runs := current.runs.modify runId fun row ↦
            failedRow row threadCheckpointConflictCode resolutionError (reading.utcNow 0)
          runEvents := current.runEvents ++ [audit, failure] } ∧
        audit.runId = runId ∧ audit.eventType = "quarantine.resolution_applied" ∧
        failure.runId = runId ∧ failure.eventType = "run.failed") ∧
      ∀ later : List FileStep,
        let db := (fileMachine hasher).run after later
        (∀ reading subject credential,
          applyQuarantineResolution hasher db reading runId tenantId target resolution planId
            subject credential = .ok ({ commit with reused := true }, db)) ∧
        ∀ reading tenant target resolution id subject credential again last,
          applyQuarantineResolution hasher db reading runId tenant target resolution id subject
            credential = .ok (again, last) → again.reused = true := by
  intro current
  obtain ⟨row, hplanned⟩ := plannedOn_of_derive hplan heligible
  have hheld := (of_ineligibilityReasons hplanned.reasons).1
  have hsince : HeldSince planned runId row current :=
    (fileMachine hasher).invariant_run (HeldSince planned runId row)
      (fun _ step hstate _ ↦ heldSince_apply hheld hstate step)
      ⟨row, hplanned.find, .inl ⟨.refl row, rfl⟩⟩ ((fileMachine hasher).admits_true _ _)
  have hfound := commit_of_applyQuarantineResolution hcommit hfirst
  obtain ⟨rfl, rfl, rfl, rfl, hstate⟩ :=
    plannedState_of_commit hinjective hplanned hid hfound hsince
  have hsame : commit.plan = plan := plan_eq_of_planned hplan hfound.derived hstate heligible
    hfound.eligible (hfound.confirmed.trans hid.symm)
  obtain ⟨audit, failure, hafter, haudit, htype, -, hfailure, hfailed⟩ := hfound.written_only
  refine ⟨hstate, hsame, ⟨audit, failure, hafter, haudit, htype, hfailure, hfailed⟩, ?_⟩
  intro later db
  obtain ⟨now, stored, hstart, hover, htenant, hobserved, hworkflow, hcheckpoint, hreasons,
    hpayload⟩ := hfound.resolved
  have hactions (stepId : String) (action : ExternalActionRow)
      (hfind : after.externalActions.find (otherRun, stepId) = some action) :
      action.status.isTerminal = true := by
    obtain ⟨held, hnow⟩ := plannedOn_of_derive hfound.derived hfound.eligible
    rw [hafter] at hfind
    exact (of_ineligibilityReasons hnow.reasons).2 stepId action hfind
  have hresolved : Resolved after otherRun otherTenant planId now stored db :=
    (fileMachine hasher).invariant_run (Resolved after otherRun otherTenant planId now stored)
      (fun _ step hkept _ ↦ resolved_apply (by rw [hover]; rfl) hactions hkept step) hstart
      ((fileMachine hasher).admits_true _ _)
  obtain ⟨htarget, hresolution⟩ := derive_target_resolution hfound.derived
  constructor
  · intro reading subject credential
    exact replay_of_resolved hresolved htenant hplanned.identifier htarget hresolution
      hfound.eligible hfound.confirmed hreasons hobserved hworkflow hcheckpoint hpayload
  · intro reading tenant target resolution id subject credential again last hagain
    by_contra hnew
    have hsecond := commit_of_applyQuarantineResolution hagain (Bool.not_eq_true _ ▸ hnew)
    obtain ⟨held, hnow⟩ := plannedOn_of_derive hsecond.derived hsecond.eligible
    obtain rfl := Option.some.inj (hresolved.find.symm.trans hnow.find)
    have hrunning := ((quarantined_iff now).mp (of_ineligibilityReasons hnow.reasons).1).1
    rw [hover] at hrunning
    cases hrunning

/-- A serialized state as one value. -/
def stateValue (state : StateJson) : Json :=
  .arr [.str state.threadId,
    .arr (state.executionTrace.map fun event ↦
      .arr [.str event.event, .str event.reason, .obj event.payload, .str event.timestamp]),
    .obj state.fields]

theorem stateValue_injective : Function.Injective stateValue := by
  intro left right heq
  simp only [stateValue, Json.arr.injEq, List.cons.injEq, Json.str.injEq, Json.obj.injEq,
    and_true] at heq
  obtain ⟨hthread, htrace, hfields⟩ := heq
  have hevents : left.executionTrace = right.executionTrace := by
    refine List.map_injective_iff.mpr (fun first second hevent ↦ ?_) htrace
    simp only [Json.arr.injEq, List.cons.injEq, Json.str.injEq, Json.obj.injEq, and_true] at hevent
    cases first
    cases second
    simp_all
  cases left
  cases right
  simp_all

/-- The texts themselves for their digests. -/
def plainHasher : Hasher := ⟨Json.encode, fun state ↦ (stateValue state).encode⟩

theorem plainHasher_injective : plainHasher.Injective where
  canonical := Json.encode_injective
  state := Json.encode_injective.comp stateValue_injective

/-- The record of the worker that books. -/
def bookingRecord : RunRecord :=
  let run := { sampleRun "r1" "t0" none with executionAuthority := some ⟨"acme", "alice", []⟩ }
  rowToRun "r1" (claimedRow Database.empty (runValues run) "w1" "lease_a" "a" 0 30000 none)

/-- A worker books a flight, a foreign writer advances the thread, and the Run is quarantined. -/
def bookedQuarantine : List FileStep :=
  let run := { sampleRun "r1" "t0" none with executionAuthority := some ⟨"acme", "alice", []⟩ }
  let lease := some "lease_a"
  [.request (submitRequest run),
    .request ⟨sampleReading 0 "a", .run (.claimNextRun "w1" 30 none)⟩,
    .request ⟨sampleReading 1 "b", .workflow (.createOrGetExecution "r1" "travel" "h" lease)⟩,
    .request ⟨sampleReading 2 "c", .workflow (.claimStep "r1" "s1" "book" "h" 1 lease)⟩,
    .request ⟨sampleReading 3 "d", .workflow (.prepareExternalAction "r1" "s1" "attempt_c"
      ⟨"acme", "alice", "travel", "book", "air", "air-1", "h", .obj [], .providerIdempotent, "k"⟩
      lease)⟩,
    .request ⟨sampleReading 4 "e", .workflow (.beginExternalActionDispatch "r1" "s1" "attempt_c"
      lease)⟩,
    .request ⟨sampleReading 5 "g", .workflow (.finalizeExternalActionSucceeded "r1" "s1"
      "dispatch_e" "attempt_c" (.obj [("pnr", .str "X")]) "ref" none)⟩,
    .advance "acme" "trip" ⟨"travel", "1", sampleState.toStateJson, "09:01", 1⟩,
    .request ⟨sampleReading 7 "q", .run (.quarantineCheckpointConflict bookingRecord "lease_a"
      "load")⟩]

def bookedFile : Database := (fileMachine plainHasher).run Database.empty bookedQuarantine

set_option maxRecDepth 10000 in
theorem booked_quarantine_is_resolved_once :
    ∃ plan planId commit after,
      planQuarantineResolution plainHasher bookedFile "r1" "acme" (.run "r1")
        .terminalizeFailedPreservingCheckpoint = .ok plan ∧ plan.eligible = true ∧
      plan.planId = some planId ∧
      applyQuarantineResolution plainHasher bookedFile (sampleReading 8 "p") "r1" "acme"
        (.run "r1") .terminalizeFailedPreservingCheckpoint planId "operator" "key" =
          .ok (commit, after) ∧ commit.reused = false ∧
      applyQuarantineResolution plainHasher after (sampleReading 9 "w") "r1" "acme" (.run "r1")
        .terminalizeFailedPreservingCheckpoint planId "other" "key" =
          .ok ({ commit with reused := true }, after) := by
  let resolution := QuarantineResolutionKind.terminalizeFailedPreservingCheckpoint
  obtain ⟨row, hrow⟩ : ∃ row, findRunForTenant bookedFile "r1" "acme" = some row :=
    Option.isSome_iff_exists.mp (by decide +kernel)
  have hreasons : ((findRunForTenant bookedFile "r1" "acme").map
      (ineligibilityReasons bookedFile "r1" "acme")) = some [] := by decide +kernel
  rw [hrow, Option.map_some, Option.some.injEq] at hreasons
  obtain ⟨hfind, htenant⟩ := (findRunForTenant_eq_some_iff bookedFile "r1" "acme" row).mp hrow
  have htarget : (QuarantineResolutionTarget.run "r1").identifier = "r1" := rfl
  obtain ⟨plan, hplan, -, heligible⟩ := derive_of_find plainHasher resolution htarget hfind htenant
  rw [hreasons] at heligible
  obtain ⟨held, hplanned⟩ := plannedOn_of_derive hplan heligible
  have hfresh (planId : String) : matchingResolutionEvents bookedFile "r1" planId = [] := by
    have hnone : bookedFile.runEvents.all
        (fun event ↦ event.eventType != "quarantine.resolution_applied") = true := by
      decide +kernel
    refine List.filter_eq_nil_iff.mpr fun event hmem ↦ ?_
    have htype := bne_iff_ne.mp (List.all_eq_true.mp hnone event hmem)
    simp [htype]
  obtain ⟨commit, after, hcommit, hfirst⟩ := commit_of_eligible hplan heligible hplanned.planId
    (hfresh _) (sampleReading 8 "p") "operator" "key"
  obtain ⟨-, -, -, hlater⟩ := resolution_applies_plan_once plainHasher plainHasher_injective
    bookedFile "r1" "acme" _ (.run "r1") resolution plan hplan heligible hplanned.planId []
    (sampleReading 8 "p") "r1" "acme" "operator" "key" (.run "r1") resolution commit after hcommit
    hfirst
  exact ⟨plan, _, commit, after, hplan, heligible, hplanned.planId, hcommit, hfirst,
    (hlater []).1 (sampleReading 9 "w") "other" "key"⟩

end AgentRuntime.Store
