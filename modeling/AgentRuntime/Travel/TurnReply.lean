import AgentRuntime.Travel.TravelAgentRuntime

/-!
# What a reply reflects

Over any conversation from the initial state, the itinerary is the plan for the constraints that the
state holds now, and the retry counter only rises up to its limit (`Coherent`). A reply without
validation errors to an actionable message shows that plan. To a confirmation it does so exactly
when the state carries no blockers: `confirm_plan` leaves those of an earlier request for
clarification in place, where a replan clears them.
-/

set_option autoImplicit false
set_option relaxedAutoImplicit false

namespace AgentRuntime.Travel

open Library Store

/-! ### The property -/

/-- The cost of a plan for a number of days under the preferences of a state. -/
def planCost (state : AgentState) (days : Int) : Int :=
  (if state.prefers "avoid_red_eye" then 2300 else 1800) +
    days * ((if state.prefers "hotel_near_subway" then 850 else 650) +
      if state.isRelaxed then 300 else 450)

/-- The plan is the one for the constraints that the state holds. -/
structure PlanMatches (state : AgentState) (plan : TravelPlan) : Prop where
  destination : state.destination = some plan.destination
  days : state.days = some plan.days
  daytime : plan.flightType = "daytime" ↔ state.prefers "avoid_red_eye" = true
  cost : plan.totalCost = planCost state plan.days

/-- The message asks for a change of the plan. -/
def Actionable (runtime : TravelAgentRuntime) (state : AgentState) (message : String) : Prop :=
  ∃ intent patch, runtime.detectIntentAndPatch state message = .ok (intent, patch) ∧
    patch.triggerReplan = true

/-- The message confirms the plan. -/
def Confirms (runtime : TravelAgentRuntime) (state : AgentState) (message : String) : Prop :=
  ∃ patch, runtime.detectIntentAndPatch state message = .ok ("confirm_plan", patch)

/-- The response to a turn reflects it. -/
structure Reflects (runtime : TravelAgentRuntime) (state : AgentState) (turn : Turn)
    (response : TravelResponse) : Prop where
  plan : ∀ plan, response.state.itinerary = some plan → PlanMatches response.state plan
  limit : response.state.retryCount ≤ runtime.retryLimit
  retries : state.retryCount ≤ response.state.retryCount
  reply : response.validationErrors = [] →
    Actionable runtime state turn.message ∨ Confirms runtime state turn.message →
      response.state.blockers = [] ∧ ∃ plan, response.state.itinerary = some plan ∧
        renderPlan response.state plan = .ok response.message

/-- A confirmation finds no blockers, or a state that does not pass validation. -/
def FreshConfirmation (runtime : TravelAgentRuntime) (state : AgentState) (turn : Turn) : Prop :=
  Confirms runtime state turn.message → state.blockers = [] ∨ validate state ≠ .ok []

/-! ### Required fields -/

theorem required_isSome_iff (state : AgentState) :
    state.required.isSome = true ↔ textMissing state.destination = false ∧
      intMissing state.days = false ∧ intMissing state.budget = false := by
  unfold AgentState.required
  cases state.destination with
  | none => simp [textMissing]
  | some destination =>
    cases state.days with
    | none => simp [intMissing]
    | some days =>
      cases state.budget with
      | none => simp [intMissing]
      | some budget =>
        by_cases hmissing : destination = "" ∨ days = 0 ∨ budget = 0
        · simp only [if_pos hmissing, Option.isSome_none, Bool.false_eq_true, false_iff]
          simp only [textMissing, intMissing, Option.getD_some, beq_eq_false_iff_ne]
          tauto
        · simp only [if_neg hmissing, Option.isSome_some, true_iff]
          simp only [textMissing, intMissing, Option.getD_some, beq_eq_false_iff_ne]
          tauto

theorem required_eq_some {state : AgentState} {destination : String} {days budget : Int}
    (hrequired : state.required = some (destination, days, budget)) :
    state.destination = some destination ∧ state.days = some days ∧
      state.budget = some budget := by
  unfold AgentState.required at hrequired
  split at hrequired
  · next hdestination hdays hbudget =>
    split_ifs at hrequired
    cases hrequired
    exact ⟨hdestination, hdays, hbudget⟩
  · cases hrequired

theorem validateRequiredFields_eq_nil (state : AgentState) :
    validateRequiredFields state = [] ↔ state.required.isSome = true := by
  rw [required_isSome_iff]
  unfold validateRequiredFields
  cases textMissing state.destination <;> cases intMissing state.days <;>
    cases intMissing state.budget <;> simp

/-- A validation that does not raise returns the errors of the required fields before all others. -/
theorem validate_eq_ok {state : AgentState} {errors : List String}
    (hvalid : validate state = .ok errors) :
    ∃ budgetErrors dayErrors, errors =
      validateRequiredFields state ++ budgetErrors ++ validateNoRedEye state ++ dayErrors := by
  unfold validate at hvalid
  cases hbudget : validateBudget state with
  | error text => simp [hbudget, Bind.bind, Except.bind] at hvalid
  | ok budgetErrors =>
    cases hdays : validateItineraryDays state with
    | error text => simp [hbudget, hdays, Bind.bind, Except.bind] at hvalid
    | ok dayErrors =>
      simp only [hbudget, hdays, Bind.bind, Except.bind, pure, Except.pure] at hvalid
      exact ⟨budgetErrors, dayErrors, (Except.ok.inj hvalid).symm⟩

/-- A state that passes validation has its required fields. -/
theorem required_of_validate {state : AgentState} (hvalid : validate state = .ok []) :
    state.required.isSome = true := by
  obtain ⟨budgetErrors, dayErrors, herrors⟩ := validate_eq_ok hvalid
  have hnone := herrors.symm
  simp only [List.append_eq_nil_iff] at hnone
  exact (validateRequiredFields_eq_nil state).mp hnone.1.1.1

/-! ### The patches -/

/-- The update sets a constraint of the user to a truthy value. -/
def Constrains : FieldUpdate → Prop
  | .destination value => value ≠ ""
  | .days value => value ≠ 0
  | .budget value => value ≠ 0
  | .preferences _ => True
  | _ => False

theorem constrains_of_messageUpdates {text message : String} {days budget : Option Int}
    {entry : FieldUpdate} (hmem : entry ∈ messageUpdates text message days budget) :
    Constrains entry := by
  have htruthy (value : Option Int) (found : Int) (hfound : truthyInt value = some found) :
      found ≠ 0 := by
    cases value with
    | none => cases hfound
    | some number =>
      unfold truthyInt at hfound
      dsimp only at hfound
      split_ifs at hfound with hzero
      cases hfound
      exact hzero
  unfold messageUpdates at hmem
  simp only [List.mem_append, Option.mem_toList, Option.map_eq_some_iff] at hmem
  rcases hmem with ((hdestination | ⟨found, hfound, rfl⟩) | ⟨found, hfound, rfl⟩) | hpreferences
  · split_ifs at hdestination
    · obtain rfl := List.mem_singleton.mp hdestination
      show "Tokyo" ≠ ""
      decide
    · cases hdestination
  · exact htruthy _ _ hfound
  · exact htruthy _ _ hfound
  · split_ifs at hpreferences
    · cases hpreferences
    · obtain rfl := List.mem_singleton.mp hpreferences
      trivial

/-- What detecting the intent of a message can yield. -/
theorem detect_cases {runtime : TravelAgentRuntime} {state : AgentState} {message intent : String}
    {patch : StatePatch}
    (hdetect : runtime.detectIntentAndPatch state message = .ok (intent, patch)) :
    (intent = "confirm_plan" ∧ patch = confirmPatch) ∨
      (intent = "ask_clarification" ∧ patch = clarifyPatch) ∨
      ∃ updates : List FieldUpdate, (∀ entry ∈ updates, Constrains entry) ∧
        intent = inferIntent state updates ∧ patch = actionPatch intent message updates := by
  unfold TravelAgentRuntime.detectIntentAndPatch at hdetect
  cases hdays : extractDays message with
  | error text => simp [hdays, Bind.bind, Except.bind] at hdetect
  | ok days =>
    cases hbudget : extractBudget message with
    | error text => simp [hdays, hbudget, Bind.bind, Except.bind] at hdetect
    | ok budget =>
      simp only [hdays, hbudget, Bind.bind, Except.bind, pure, Except.pure] at hdetect
      split_ifs at hdetect with hconfirm hempty
      · cases hdetect
        exact .inl ⟨rfl, rfl⟩
      · cases hdetect
        exact .inr (.inl ⟨rfl, rfl⟩)
      · cases hdetect
        exact .inr (.inr ⟨_, fun entry hmem ↦ constrains_of_messageUpdates hmem, rfl, rfl⟩)

theorem inferIntent_ne_confirm (state : AgentState) (updates : List FieldUpdate) :
    inferIntent state updates ≠ "confirm_plan" := by
  unfold inferIntent
  dsimp only
  split_ifs <;> decide

/-- What a patch of constraints leaves alone, and that it keeps the required fields set. -/
structure Constrained (state after : AgentState) : Prop where
  itinerary : after.itinerary = state.itinerary
  blockers : after.blockers = state.blockers
  retryCount : after.retryCount = state.retryCount
  required : state.required.isSome = true → after.required.isSome = true

theorem constrained_update (state : AgentState) {entry : FieldUpdate} (hentry : Constrains entry) :
    Constrained state (state.update entry) := by
  cases entry with
  | destination value =>
    refine ⟨rfl, rfl, rfl, fun hrequired ↦ ?_⟩
    rw [required_isSome_iff] at hrequired ⊢
    have hne : value ≠ "" := hentry
    have hvalue : textMissing (some value) = false := by simpa [textMissing] using hne
    exact ⟨hvalue, hrequired.2⟩
  | days value =>
    refine ⟨rfl, rfl, rfl, fun hrequired ↦ ?_⟩
    rw [required_isSome_iff] at hrequired ⊢
    have hne : value ≠ 0 := hentry
    have hvalue : intMissing (some value) = false := by simpa [intMissing] using hne
    exact ⟨hrequired.1, hvalue, hrequired.2.2⟩
  | budget value =>
    refine ⟨rfl, rfl, rfl, fun hrequired ↦ ?_⟩
    rw [required_isSome_iff] at hrequired ⊢
    have hne : value ≠ 0 := hentry
    have hvalue : intMissing (some value) = false := by simpa [intMissing] using hne
    exact ⟨hrequired.1, hrequired.2.1, hvalue⟩
  | preferences value => exact ⟨rfl, rfl, rfl, id⟩
  | itinerary value => exact hentry.elim
  | toolOutputs value => exact hentry.elim
  | blockers value => exact hentry.elim
  | retryCount value => exact hentry.elim
  | currentStage value => exact hentry.elim

theorem constrained_updates {updates : List FieldUpdate}
    (hupdates : ∀ entry ∈ updates, Constrains entry) (state : AgentState) :
    Constrained state (updates.foldl AgentState.update state) := by
  induction updates generalizing state with
  | nil => exact ⟨rfl, rfl, rfl, id⟩
  | cons entry rest ih =>
    have hfirst := constrained_update state (hupdates entry List.mem_cons_self)
    have hrest := ih (fun other hmem ↦ hupdates other (List.mem_cons_of_mem _ hmem))
      (state.update entry)
    exact ⟨hrest.itinerary.trans hfirst.itinerary, hrest.blockers.trans hfirst.blockers,
      hrest.retryCount.trans hfirst.retryCount, fun hrequired ↦
        hrest.required (hfirst.required hrequired)⟩

/-- Two states that differ in their traces only. -/
def SameFields (state other : AgentState) : Prop :=
  other = { state with executionTrace := other.executionTrace }

theorem sameFields_appendTrace (state : AgentState) (entry : TraceEvent) :
    SameFields state (state.appendTrace entry) := rfl

theorem SameFields.trans {first second third : AgentState} (hfirst : SameFields first second)
    (hsecond : SameFields second third) : SameFields first third := by
  unfold SameFields at *
  rw [hsecond, hfirst]

theorem SameFields.plan {state other : AgentState} (hsame : SameFields state other)
    {plan : TravelPlan} (hmatches : PlanMatches state plan) : PlanMatches other plan := by
  rw [hsame]
  exact ⟨hmatches.destination, hmatches.days, hmatches.daytime, hmatches.cost⟩

theorem SameFields.validate {state other : AgentState} (hsame : SameFields state other) :
    validate other = validate state := by
  rw [hsame]
  rfl

/-- A patch without locked fields applies all its updates. -/
theorem sameFields_applyPatch (patch : StatePatch) (hunlocked : patch.lockedFields = [])
    (state : AgentState) (timestamp : String) :
    SameFields (patch.updates.foldl AgentState.update state)
      (state.applyPatch patch timestamp) := by
  have hall : (patch.updates.filter fun entry ↦ !patch.lockedFields.contains entry.name) =
      patch.updates := by
    rw [hunlocked]
    simp
  unfold AgentState.applyPatch
  dsimp only
  rw [hall]
  exact sameFields_appendTrace _ _

/-! ### Replanning -/

theorem buildPlan_matches {state : AgentState} {destination : String} {days : Int}
    (hdestination : state.destination = some destination) (hdays : state.days = some days)
    (reason : String) : PlanMatches state (buildPlan state destination days reason []) where
  destination := hdestination
  days := hdays
  daytime := by
    unfold buildPlan
    dsimp only
    cases state.prefers "avoid_red_eye" with
    | false => decide
    | true => decide
  cost := by
    simp only [buildPlan, costBreakdown, planCost, List.not_mem_nil, false_and, if_false]

/-- `partial_replan` without directives: nothing is planned yet, or the plan is the one for the
constraints of the state and the blockers are cleared. -/
theorem partialReplan_cases (state : AgentState) (reason timestamp : String) :
    (state.required = none ∧ SameFields state (partialReplan state reason [] timestamp)) ∨
      ∃ plan, PlanMatches state plan ∧ state.required.isSome = true ∧
        SameFields { state with itinerary := some plan, currentStage := "planned", blockers := [] }
          (partialReplan state reason [] timestamp) := by
  unfold partialReplan
  cases hrequired : state.required with
  | none => exact .inl ⟨rfl, sameFields_appendTrace _ _⟩
  | some fields =>
    obtain ⟨destination, days, budget⟩ := fields
    obtain ⟨hdestination, hdays, -⟩ := required_eq_some hrequired
    refine .inr ⟨_, buildPlan_matches hdestination hdays reason, rfl, ?_⟩
    exact sameFields_applyPatch _ rfl state timestamp

/-! ### One turn -/

/-- What every state of a conversation satisfies. -/
structure Coherent (runtime : TravelAgentRuntime) (state : AgentState) : Prop where
  plan : ∀ plan, state.itinerary = some plan → PlanMatches state plan
  planned : state.itinerary.isSome = true ↔ state.required.isSome = true
  limit : state.retryCount ≤ runtime.retryLimit

variable {runtime : TravelAgentRuntime} {state : AgentState} {turn : Turn}

theorem SameFields.coherent {other : AgentState} (hsame : SameFields state other)
    (hcoherent : Coherent runtime state) : Coherent runtime other := by
  have hitinerary : other.itinerary = state.itinerary := by rw [hsame]
  have hrequired : other.required = state.required := by
    rw [hsame]
    rfl
  have hretries : other.retryCount = state.retryCount := by rw [hsame]
  refine ⟨fun plan hplan ↦ hsame.plan (hcoherent.plan plan (hitinerary ▸ hplan)), ?_, ?_⟩
  · rw [hitinerary, hrequired]
    exact hcoherent.planned
  · rw [hretries]
    exact hcoherent.limit

/-- Blockers, stage and an admissible retry counter do not matter to coherence. -/
theorem Coherent.settle (hcoherent : Coherent runtime state) (blockers : List String)
    (stage : String) {count : Int} (hcount : count ≤ runtime.retryLimit) :
    Coherent runtime
      { state with blockers := blockers, currentStage := stage, retryCount := count } where
  plan plan hplan :=
    have hmatches := hcoherent.plan plan hplan
    ⟨hmatches.destination, hmatches.days, hmatches.daytime, hmatches.cost⟩
  planned := hcoherent.planned
  limit := hcount

/-- A replan after a patch of constraints leaves a coherent state, which is planned and without
blockers as soon as its required fields are set. -/
theorem coherent_replan (hcoherent : Coherent runtime state) {applied : AgentState}
    (hconstrained : Constrained state applied) (reason timestamp : String) :
    Coherent runtime (partialReplan applied reason [] timestamp) ∧
      (partialReplan applied reason [] timestamp).retryCount = state.retryCount ∧
      ((partialReplan applied reason [] timestamp).required.isSome = true →
        (partialReplan applied reason [] timestamp).blockers = []) := by
  have hlimit : applied.retryCount ≤ runtime.retryLimit := by
    rw [hconstrained.retryCount]
    exact hcoherent.limit
  rcases partialReplan_cases applied reason timestamp with
    ⟨hnone, hsame⟩ | ⟨plan, hmatches, hsome, hsame⟩
  · -- nothing was planned before either, since the patch keeps required fields set
    have hunplanned : applied.itinerary = none := by
      rw [hconstrained.itinerary]
      by_contra hplanned
      have hrequired := hcoherent.planned.mp (Option.isSome_iff_ne_none.mpr hplanned)
      have hstill := hconstrained.required hrequired
      rw [hnone] at hstill
      cases hstill
    have happlied : Coherent runtime applied := by
      refine ⟨fun plan hplan ↦ ?_, ?_, hlimit⟩
      · rw [hunplanned] at hplan
        cases hplan
      · rw [hunplanned, hnone]
        simp
    refine ⟨hsame.coherent happlied, ?_, fun hrequired ↦ ?_⟩
    · rw [hsame]
      exact hconstrained.retryCount
    · have heq : (partialReplan applied reason [] timestamp).required = applied.required := by
        rw [hsame]
        rfl
      rw [heq, hnone] at hrequired
      cases hrequired
  · have hreplanned : Coherent runtime
        { applied with itinerary := some plan, currentStage := "planned", blockers := [] } := by
      refine ⟨fun other hother ↦ ?_, iff_of_true rfl hsome, hlimit⟩
      obtain rfl := Option.some.inj hother
      exact ⟨hmatches.destination, hmatches.days, hmatches.daytime, hmatches.cost⟩
    refine ⟨hsame.coherent hreplanned, ?_, fun _ ↦ ?_⟩
    · rw [hsame]
      exact hconstrained.retryCount
    · rw [hsame]

/-- The state that a turn validates: what each of the three intents makes of it. -/
theorem patched_cases (hcoherent : Coherent runtime state) {intent : String} {patch : StatePatch}
    (hdetect : runtime.detectIntentAndPatch state turn.message = .ok (intent, patch)) :
    (intent = "confirm_plan" ∧ patch.triggerReplan = false ∧
        SameFields state (TravelAgentRuntime.patched state turn intent patch)) ∨
      (intent ≠ "confirm_plan" ∧ patch.triggerReplan = false ∧ ∃ blockers,
        SameFields { state with blockers := blockers }
          (TravelAgentRuntime.patched state turn intent patch)) ∨
      (intent ≠ "confirm_plan" ∧ patch.triggerReplan = true ∧
        Coherent runtime (TravelAgentRuntime.patched state turn intent patch) ∧
        (TravelAgentRuntime.patched state turn intent patch).retryCount = state.retryCount ∧
        ((TravelAgentRuntime.patched state turn intent patch).required.isSome = true →
          (TravelAgentRuntime.patched state turn intent patch).blockers = [])) := by
  rcases detect_cases hdetect with ⟨rfl, rfl⟩ | ⟨rfl, rfl⟩ | ⟨updates, hupdates, hintent, rfl⟩
  · exact .inl ⟨rfl, rfl, rfl⟩
  · exact .inr (.inl ⟨by decide, rfl, _, rfl⟩)
  · refine .inr (.inr ⟨hintent ▸ inferIntent_ne_confirm state updates, rfl, ?_⟩)
    have hconstrained : Constrained state
        ((state.appendTrace (intentDetected intent turn)).applyPatch
          (actionPatch intent turn.message updates) turn.stamps.patchApplied) := by
      have hupdated := constrained_updates hupdates (state.appendTrace (intentDetected intent turn))
      have hsame := sameFields_applyPatch (actionPatch intent turn.message updates) rfl
        (state.appendTrace (intentDetected intent turn)) turn.stamps.patchApplied
      refine ⟨?_, ?_, ?_, fun hrequired ↦ ?_⟩
      · rw [hsame]
        exact hupdated.itinerary
      · rw [hsame]
        exact hupdated.blockers
      · rw [hsame]
        exact hupdated.retryCount
      · have hkept := hupdated.required hrequired
        rw [hsame]
        exact hkept
    exact coherent_replan hcoherent hconstrained _ _

/-- A failed validation records its errors and counts a retry while there is one left. -/
theorem failure_settles (runtime : TravelAgentRuntime) (state : AgentState) (errors : List String)
    (timestamp : String) :
    ∃ count stage, state.retryCount ≤ count ∧
      (state.retryCount ≤ runtime.retryLimit → count ≤ runtime.retryLimit) ∧
      SameFields { state with blockers := errors, currentStage := stage, retryCount := count }
        (runtime.handleValidationFailure state errors timestamp) := by
  unfold TravelAgentRuntime.handleValidationFailure failurePatch
  by_cases hexhausted : runtime.retryLimit ≤ state.retryCount
  · refine ⟨state.retryCount, "blocked", le_refl _, id, ?_⟩
    rw [if_pos hexhausted]
    rfl
  · refine ⟨state.retryCount + 1, "needs_repair", by omega, fun _ ↦ by omega, ?_⟩
    rw [if_neg hexhausted]
    rfl

/-- What a response says of the state that the turn validated. -/
theorem handleUserMessage_eq_ok {response : TravelResponse}
    (hok : runtime.handleUserMessage state turn = .ok response) :
    ∃ intent patch, runtime.detectIntentAndPatch state turn.message = .ok (intent, patch) ∧
      ∃ checked, checked = TravelAgentRuntime.patched state turn intent patch ∧
        validate checked = .ok response.validationErrors ∧
        renderResponse response.state = .ok response.message ∧
        ((response.validationErrors = [] ∧ SameFields checked response.state) ∨
          (response.validationErrors ≠ [] ∧ ∃ count stage, checked.retryCount ≤ count ∧
            (checked.retryCount ≤ runtime.retryLimit → count ≤ runtime.retryLimit) ∧
            SameFields
              { checked with
                blockers := response.validationErrors
                currentStage := stage
                retryCount := count }
              response.state)) := by
  unfold TravelAgentRuntime.handleUserMessage at hok
  cases hdetect : runtime.detectIntentAndPatch state turn.message with
  | error text => simp [hdetect, Bind.bind, Except.bind] at hok
  | ok found =>
    obtain ⟨intent, patch⟩ := found
    refine ⟨intent, patch, rfl, _, rfl, ?_⟩
    simp only [hdetect, Bind.bind, Except.bind, pure, Except.pure] at hok
    generalize TravelAgentRuntime.patched state turn intent patch = checked at hok ⊢
    cases herrors : validate checked with
    | error text => simp [herrors] at hok
    | ok errors =>
      simp only [herrors] at hok
      split at hok
      · cases hok
      · next message hmessage =>
        obtain rfl := Except.ok.inj hok
        refine ⟨rfl, hmessage, ?_⟩
        by_cases hvalid : errors = []
        · refine .inl ⟨hvalid, ?_⟩
          dsimp only
          rw [if_pos hvalid]
          exact sameFields_appendTrace _ _
        · refine .inr ⟨hvalid, ?_⟩
          dsimp only
          rw [if_neg hvalid]
          exact failure_settles runtime (checked.appendTrace (validationFinished errors turn))
            errors turn.stamps.failureHandled

/-- The reply to a valid turn: the plan exactly when no blockers are left. -/
theorem reply_iff {checked : AgentState} {response : TravelResponse}
    (hcoherent : Coherent runtime checked) (hvalid : validate checked = .ok [])
    (hsame : SameFields checked response.state)
    (hmessage : renderResponse response.state = .ok response.message) :
    (response.state.blockers = [] ∧ ∃ plan, response.state.itinerary = some plan ∧
        renderPlan response.state plan = .ok response.message) ↔ checked.blockers = [] := by
  have hblockers : response.state.blockers = checked.blockers := by rw [hsame]
  constructor
  · rintro ⟨hnone, -⟩
    rw [← hblockers]
    exact hnone
  · intro hnone
    have hplanned := (hsame.coherent hcoherent).planned.mpr (by
      have hrequired := required_of_validate (hsame.validate.trans hvalid)
      exact hrequired)
    obtain ⟨plan, hplan⟩ := Option.isSome_iff_exists.mp hplanned
    have hclear : response.state.blockers = [] := hblockers.trans hnone
    refine ⟨hclear, plan, hplan, ?_⟩
    unfold renderResponse at hmessage
    rw [if_neg (not_not.mpr hclear), hplan] at hmessage
    exact hmessage

theorem actionable_of_detect {intent : String} {patch : StatePatch}
    (hdetect : runtime.detectIntentAndPatch state turn.message = .ok (intent, patch)) :
    Actionable runtime state turn.message ↔ patch.triggerReplan = true := by
  constructor
  · rintro ⟨other, otherPatch, hother, htrigger⟩
    rw [hdetect] at hother
    cases hother
    exact htrigger
  · exact fun htrigger ↦ ⟨intent, patch, hdetect, htrigger⟩

theorem confirms_of_detect {intent : String} {patch : StatePatch}
    (hdetect : runtime.detectIntentAndPatch state turn.message = .ok (intent, patch)) :
    Confirms runtime state turn.message ↔ intent = "confirm_plan" := by
  constructor
  · rintro ⟨otherPatch, hother⟩
    rw [hdetect] at hother
    cases hother
    rfl
  · rintro rfl
    exact ⟨patch, hdetect⟩

/-- The patched state is coherent, with the counter of the state before it. -/
theorem coherent_patched (hcoherent : Coherent runtime state) {intent : String}
    {patch : StatePatch}
    (hdetect : runtime.detectIntentAndPatch state turn.message = .ok (intent, patch)) :
    Coherent runtime (TravelAgentRuntime.patched state turn intent patch) ∧
      (TravelAgentRuntime.patched state turn intent patch).retryCount = state.retryCount := by
  rcases patched_cases hcoherent hdetect with
    ⟨-, -, hsame⟩ | ⟨-, -, blockers, hsame⟩ | ⟨-, -, hkept, hretries, -⟩
  · exact ⟨hsame.coherent hcoherent, by rw [hsame]⟩
  · have hblocked := hcoherent.settle blockers state.currentStage hcoherent.limit
    exact ⟨hsame.coherent hblocked, by rw [hsame]⟩
  · exact ⟨hkept, hretries⟩

/-- A turn keeps coherence and never lowers the counter. -/
theorem turn_coherent (hcoherent : Coherent runtime state) {response : TravelResponse}
    (hok : runtime.handleUserMessage state turn = .ok response) :
    Coherent runtime response.state ∧ state.retryCount ≤ response.state.retryCount := by
  obtain ⟨intent, patch, hdetect, checked, hchecked, -, -, hend⟩ := handleUserMessage_eq_ok hok
  obtain ⟨hmiddle, hretries⟩ := coherent_patched hcoherent hdetect
  rw [← hchecked] at hmiddle hretries
  rcases hend with ⟨-, hsame⟩ | ⟨-, count, stage, hmore, hlimit, hsame⟩
  · refine ⟨hsame.coherent hmiddle, le_of_eq ?_⟩
    rw [hsame]
    exact hretries.symm
  · refine ⟨hsame.coherent (hmiddle.settle _ stage (hlimit hmiddle.limit)), ?_⟩
    rw [hsame]
    exact hretries ▸ hmore

/-- A turn is reflected by its reply exactly when it does not confirm a valid plan over blockers. -/
theorem turn_reflects_iff (hcoherent : Coherent runtime state) {response : TravelResponse}
    (hok : runtime.handleUserMessage state turn = .ok response) :
    Reflects runtime state turn response ↔ FreshConfirmation runtime state turn := by
  obtain ⟨intent, patch, hdetect, checked, hchecked, herrors, hmessage, hend⟩ :=
    handleUserMessage_eq_ok hok
  have hactionable := actionable_of_detect hdetect
  have hconfirms := confirms_of_detect hdetect
  have hmiddle := coherent_patched hcoherent hdetect
  have hcases := patched_cases hcoherent hdetect
  rw [← hchecked] at hmiddle hcases
  have hfinal := turn_coherent hcoherent hok
  have hrest (hreply : response.validationErrors = [] →
      Actionable runtime state turn.message ∨ Confirms runtime state turn.message →
        response.state.blockers = [] ∧ ∃ plan, response.state.itinerary = some plan ∧
          renderPlan response.state plan = .ok response.message) :
      Reflects runtime state turn response :=
    ⟨hfinal.1.plan, hfinal.1.limit, hfinal.2, hreply⟩
  rcases hend with ⟨hnone, hsame⟩ | ⟨hinvalid, -⟩
  · have hvalid : validate checked = .ok [] := hnone ▸ herrors
    have hreply := reply_iff hmiddle.1 hvalid hsame hmessage
    rcases hcases with ⟨hintent, htrigger, hkept⟩ | ⟨hintent, htrigger, -⟩ |
        ⟨hintent, htrigger, -, -, hclear⟩
    · -- a confirmation of a valid plan: the blockers are those of the state before it
      have hblockers : checked.blockers = state.blockers := by rw [hkept]
      have hbefore : validate state = .ok [] := hkept.validate.symm.trans hvalid
      constructor
      · intro hreflects _
        refine .inl (hblockers ▸ hreply.mp ?_)
        exact hreflects.reply hnone (.inr (hconfirms.mpr hintent))
      · intro hfresh
        refine hrest fun _ _ ↦ hreply.mpr ?_
        rcases hfresh (hconfirms.mpr hintent) with hclear | hfails
        · exact hblockers.trans hclear
        · exact absurd hbefore hfails
    · refine iff_of_true (hrest fun _ hmessage ↦ ?_) fun hconfirm ↦ ?_
      · rcases hmessage with haction | hconfirm
        · rw [hactionable.mp haction] at htrigger
          cases htrigger
        · exact absurd (hconfirms.mp hconfirm) hintent
      · exact absurd (hconfirms.mp hconfirm) hintent
    · refine iff_of_true (hrest fun _ _ ↦ ?_) fun hconfirm ↦ ?_
      · exact hreply.mpr (hclear (required_of_validate hvalid))
      · exact absurd (hconfirms.mp hconfirm) hintent
  · refine iff_of_true (hrest fun hnone _ ↦ absurd hnone hinvalid) fun hconfirm ↦ .inr ?_
    · rcases hcases with ⟨-, -, hkept⟩ | ⟨hintent, -, -⟩ | ⟨hintent, -, -⟩
      · intro hpassed
        rw [hkept.validate, hpassed] at herrors
        exact hinvalid (Except.ok.inj herrors).symm
      · exact absurd (hconfirms.mp hconfirm) hintent
      · exact absurd (hconfirms.mp hconfirm) hintent

/-! ### Conversations -/

theorem coherent_initial {runtime : TravelAgentRuntime} (hlimit : 0 ≤ runtime.retryLimit)
    (threadId : String) : Coherent runtime (.initial threadId) where
  plan plan hplan := by cases hplan
  planned := by
    refine iff_of_false ?_ ?_
    · simp [AgentState.initial]
    · simp [AgentState.initial, AgentState.required]
  limit := hlimit

theorem coherent_converse {runtime : TravelAgentRuntime} (hlimit : 0 ≤ runtime.retryLimit)
    (threadId : String) (turns : List Turn) :
    Coherent runtime (runtime.converse threadId turns) := by
  have hrun : ∀ (turns : List Turn) (state : AgentState), Coherent runtime state →
      Coherent runtime (turns.foldl runtime.afterTurn state) := by
    intro turns
    induction turns with
    | nil => exact fun _ hcoherent ↦ hcoherent
    | cons turn rest ih =>
      intro state hcoherent
      refine ih _ ?_
      unfold TravelAgentRuntime.afterTurn
      cases hturn : runtime.handleUserMessage state turn with
      | ok response => exact (turn_coherent hcoherent hturn).1
      | error text => exact hcoherent
  exact hrun turns _ (coherent_initial hlimit threadId)

/-- Every turn of the conversation that got a response satisfies the property, in the state it was
handled in. -/
def EveryTurn (runtime : TravelAgentRuntime) (threadId : String) (turns : List Turn)
    (property : AgentState → Turn → TravelResponse → Prop) : Prop :=
  ∀ earlier turn later response, turns = earlier ++ turn :: later →
    runtime.handleUserMessage (runtime.converse threadId earlier) turn = .ok response →
      property (runtime.converse threadId earlier) turn response

/-- The replies of a conversation reflect their turns exactly when each confirmation finds a state
without blockers or one that fails validation. -/
theorem conversation_reflects_iff (runtime : TravelAgentRuntime) (hlimit : 0 ≤ runtime.retryLimit)
    (threadId : String) (turns : List Turn) :
    EveryTurn runtime threadId turns (Reflects runtime) ↔
      EveryTurn runtime threadId turns fun state turn _ ↦
        FreshConfirmation runtime state turn := by
  constructor
  · intro hreflects earlier turn later response hsplit hok
    have hturn := turn_reflects_iff (coherent_converse hlimit threadId earlier) hok
    exact hturn.mp (hreflects earlier turn later response hsplit hok)
  · intro hfresh earlier turn later response hsplit hok
    have hturn := turn_reflects_iff (coherent_converse hlimit threadId earlier) hok
    exact hturn.mpr (hfresh earlier turn later response hsplit hok)

theorem eq_ok_of_toOption {α ε : Type} {result : Except ε α} {value : α}
    (hsome : result.toOption = some value) : result = .ok value := by
  cases result with
  | ok other => exact congrArg Except.ok (Option.some.inj hsome)
  | error error => cases hsome

def sampleRuntime : TravelAgentRuntime := ⟨2, String.toLower⟩

def sampleTurn (message : String) : Turn := ⟨message, "t0", "t1", "t2", "t3", "t4"⟩

/-- A plan, and a message that nothing can be made of. -/
def clarifiedTurns : List Turn :=
  [sampleTurn "5 day trip to Tokyo budget 20000", sampleTurn "hmm"]

def confirmation : Turn := sampleTurn "looks good"

/-- The replies reflect a conversation in which the plan is confirmed right away. -/
theorem confirmed_plan_reflects :
    EveryTurn sampleRuntime "thread" [sampleTurn "5 day trip to Tokyo budget 20000", confirmation]
      (Reflects sampleRuntime) := by
  refine (conversation_reflects_iff sampleRuntime (by decide) "thread" _).mpr ?_
  have hplanned : (sampleRuntime.converse "thread"
      [sampleTurn "5 day trip to Tokyo budget 20000"]).blockers = [] := by
    decide +kernel
  intro earlier turn later response hsplit _ _
  rcases earlier with _ | ⟨first, _ | ⟨second, rest⟩⟩
  · exact .inl rfl
  · obtain ⟨rfl, -⟩ := List.cons.inj hsplit
    exact .inl hplanned
  · have hlength := congrArg List.length hsplit
    simp at hlength

/-- After a request for clarification, a confirmation of the valid plan is answered with the old
blocker. -/
theorem confirmation_keeps_blockers :
    ¬ EveryTurn sampleRuntime "thread" (clarifiedTurns ++ [confirmation])
      (Reflects sampleRuntime) := by
  intro hreflects
  have hresponse : ((sampleRuntime.handleUserMessage
      (sampleRuntime.converse "thread" clarifiedTurns)
      confirmation).toOption.map fun response ↦
        (response.validationErrors, response.state.blockers)) =
      some ([], ["Could not identify actionable travel constraints."]) := by
    decide +kernel
  have hintent : ((sampleRuntime.detectIntentAndPatch
      (sampleRuntime.converse "thread" clarifiedTurns) confirmation.message).toOption.map
        Prod.fst) = some "confirm_plan" := by
    decide +kernel
  obtain ⟨response, hok, hfields⟩ := Option.map_eq_some_iff.mp hresponse
  obtain ⟨⟨intent, patch⟩, hdetect, hconfirm⟩ := Option.map_eq_some_iff.mp hintent
  obtain ⟨herrors, hblockers⟩ := Prod.mk.inj hfields
  dsimp only at hconfirm
  subst hconfirm
  have hturn := hreflects clarifiedTurns confirmation [] response rfl (eq_ok_of_toOption hok)
  have hclear := (hturn.reply herrors (.inr ⟨patch, eq_ok_of_toOption hdetect⟩)).1
  rw [hblockers] at hclear
  cases hclear

end AgentRuntime.Travel
