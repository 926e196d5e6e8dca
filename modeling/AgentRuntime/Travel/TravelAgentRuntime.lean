import AgentRuntime.Library.PyText
import AgentRuntime.Graph.WorkflowDag
import AgentRuntime.Travel.DynamicTravelRuntime
import AgentRuntime.Travel.FindingReducer

/-!
# `TravelAgentRuntime`

The rule-based travel runtime. A turn detects the intent of a message and the patch it asks for,
applies the patch, rebuilds the itinerary when the patch says so, validates the state and renders a
reply. Every change of the state goes through `applyPatch`, which skips locked fields and leaves a
trace entry.

The runtime is the one without the review workflow; `partialReplan` still takes the directives a
review may give. `str.lower` is a parameter, and the clock readings of the trace entries are
arguments. A number of more digits than Python converts raises where it is read from a message or
written into a text, so a turn may have no response.
-/

set_option autoImplicit false
set_option relaxedAutoImplicit false

namespace AgentRuntime.Travel

open Library Store AgentRuntime.Graph

/-! ### Patches -/

/-- One entry of the `updates` of a `StatePatch`. -/
inductive FieldUpdate where
  | destination (value : String)
  | days (value : Int)
  | budget (value : Int)
  | preferences (value : Payload)
  | itinerary (value : TravelPlan)
  | toolOutputs (value : Payload)
  | blockers (value : List String)
  | retryCount (value : Int)
  | currentStage (value : String)

/-- The field that is updated. -/
def FieldUpdate.name : FieldUpdate → String
  | destination _ => "destination"
  | days _ => "days"
  | budget _ => "budget"
  | preferences _ => "preferences"
  | itinerary _ => "itinerary"
  | toolOutputs _ => "tool_outputs"
  | blockers _ => "blockers"
  | retryCount _ => "retry_count"
  | currentStage _ => "current_stage"

/-- The new value. -/
def FieldUpdate.json : FieldUpdate → Json
  | destination value | currentStage value => .str value
  | days value | budget value | retryCount value => .int value
  | preferences value | toolOutputs value => .obj value
  | itinerary value => value.dump
  | blockers value => .arr (value.map .str)

/-- `StatePatch`. -/
structure StatePatch where
  updates : List FieldUpdate
  reason : String
  affectedFields : List String
  triggerReplan : Bool
  lockedFields : List String
  metadata : Payload

mutual

/-- The value that a key gets when a dictionary is merged into another. -/
def mergeValue (current : Option Json) : Json → Json
  | .obj updates =>
    match current with
    | some (.obj original) => .obj (mergeDict original updates)
    | _ => .obj updates
  | value => value

/-- `_merge_dict`. -/
def mergeDict (original : Payload) : List (String × Json) → Payload
  | [] => original
  | (key, value) :: rest =>
    mergeDict (original.set key (mergeValue (original.get? key) value)) rest

end

theorem nodup_mergeDict {original : Payload} (hnodup : (original.map Prod.fst).Nodup)
    (updates : List (String × Json)) : ((mergeDict original updates).map Prod.fst).Nodup := by
  induction updates generalizing original with
  | nil => exact hnodup
  | cons field rest ih => exact ih (nodup_set hnodup field.1 _)

namespace AgentState

/-- The state with one field updated; dictionaries are merged. -/
def update (state : AgentState) : FieldUpdate → AgentState
  | .destination value => { state with destination := some value }
  | .days value => { state with days := some value }
  | .budget value => { state with budget := some value }
  | .preferences value =>
    { state with
      preferences := mergeDict state.preferences value
      preferences_nodup := nodup_mergeDict state.preferences_nodup value }
  | .itinerary value => { state with itinerary := some value }
  | .toolOutputs value => { state with toolOutputs := mergeDict state.toolOutputs value }
  | .blockers value => { state with blockers := value }
  | .retryCount value => { state with retryCount := value }
  | .currentStage value => { state with currentStage := value }

/-- The updates of a patch as a dictionary. -/
def updatesJson (updates : List FieldUpdate) : Json :=
  .obj (updates.map fun entry ↦ (entry.name, entry.json))

/-- `apply_patch`. -/
def applyPatch (state : AgentState) (patch : StatePatch) (timestamp : String) : AgentState :=
  let locked (entry : FieldUpdate) : Bool := patch.lockedFields.contains entry.name
  let applied := patch.updates.filter fun entry ↦ !locked entry
  (applied.foldl update state).appendTrace
    { event := "state_patch_applied"
      reason := patch.reason
      payload :=
        [("applied_updates", updatesJson applied),
          ("skipped_updates", updatesJson (patch.updates.filter locked)),
          ("affected_fields", .arr (patch.affectedFields.map .str)),
          ("trigger_replan", .bool patch.triggerReplan), ("metadata", .obj patch.metadata)]
      timestamp := timestamp }

/-- `initial_state`. -/
def initial (threadId : String) : AgentState where
  threadId := threadId
  executionTrace := []
  destination := none
  days := none
  budget := none
  preferences := []
  preferences_nodup := .nil
  itinerary := none
  toolOutputs := []
  blockers := []
  retryCount := 0
  currentStage := "initialized"

end AgentState

/-! ### Reading a message -/

/-- The patterns of `_extract_days`. -/
def daysPatterns : List Pattern :=
  let digits := Pattern.group (.several isDigit 1 none)
  let spaces := Pattern.several isWhitespace 0 none
  [.sequence digits (.sequence spaces (.sequence
      (.several (fun char ↦ char == '-' || char == ' ') 0 (some 1)) (.literal "day".toList))),
    .sequence digits (.sequence spaces (.literal "天".toList)),
    .sequence (.literal "玩".toList) (.sequence spaces (.sequence digits (.sequence spaces
      (.literal "天".toList))))]

/-- One of several words. -/
def anyOf : List String → Pattern
  | [] => .several (fun _ ↦ false) 1 none
  | [word] => .literal word.toList
  | word :: rest => .either (.literal word.toList) (anyOf rest)

/-- The patterns of `_extract_budget`. -/
def budgetPatterns : List Pattern :=
  let digits := Pattern.group (.several isDigit 4 (some 6))
  [.sequence (anyOf ["budget", "under", "预算", "控制在", "改成", "调整到"])
      (.sequence (.several (fun char ↦ !isDigit char) 0 (some 10)) digits),
    .sequence digits (.sequence (.several isWhitespace 0 none)
      (.optional (anyOf ["sgd", "rmb", "usd", "新币", "人民币", "预算"])))]

/-- The text of the `ValueError` for a number of too many digits. -/
def digitLimit : String := "Exceeds the limit (4300 digits) for integer string conversion"

/-- The number that the first matching pattern finds. -/
def extractNumber (patterns : List Pattern) (text : String) : Except String (Option Int) :=
  match patterns.findSome? fun pattern ↦ pattern.search text.toList with
  | none => .ok none
  | some digits =>
    match pyInt (String.ofList digits) with
    | some value => .ok (some value)
    | none => .error digitLimit

/-- `_extract_days`. -/
def extractDays (text : String) : Except String (Option Int) := extractNumber daysPatterns text

/-- `_extract_budget`. -/
def extractBudget (text : String) : Except String (Option Int) := extractNumber budgetPatterns text

/-- The preferences that a message names. -/
def messagePreferences (text message : String) : Payload :=
  (if occursIn "red-eye" text || occursIn "red eye" text || occursIn "红眼" message then
      [("avoid_red_eye", .bool true)]
    else []) ++
  (if occursIn "near subway" text || occursIn "靠近地铁" message then
      [("hotel_near_subway", .bool true)]
    else []) ++
  (if occursIn "relaxed" text || occursIn "轻松" message then
      [("travel_style", .str "relaxed")]
    else [])

/-- A number, unless it is zero or missing. -/
def truthyInt : Option Int → Option Int
  | some value => if value = 0 then none else some value
  | none => none

/-- The `updates` that a message asks for. -/
def messageUpdates (text message : String) (days budget : Option Int) : List FieldUpdate :=
  (if occursIn "tokyo" text || occursIn "东京" message then [.destination "Tokyo"] else []) ++
    ((truthyInt days).map FieldUpdate.days).toList ++
    ((truthyInt budget).map FieldUpdate.budget).toList ++
    if messagePreferences text message = [] then []
    else [.preferences (messagePreferences text message)]

/-- `confirm_words`. -/
def confirmWords : List String :=
  ["confirm", "looks good", "sounds good", "ok", "okay", "perfect", "great", "yes", "correct"]

/-- `_infer_intent`. -/
def inferIntent (state : AgentState) (updates : List FieldUpdate) : String :=
  let names := updates.map FieldUpdate.name
  if state.destination = none ∧ "destination" ∈ names then "new_trip_plan"
  else if "budget" ∈ names ∧ updates.length = 1 then "modify_budget"
  else if "preferences" ∈ names ∧ updates.length = 1 then "modify_preference"
  else "modify_constraints"

/-- `TravelAgentRuntime` without a review workflow. -/
structure TravelAgentRuntime where
  retryLimit : Int
  lower : String → String

/-- `confirm_plan` changes nothing. -/
def confirmPatch : StatePatch where
  updates := []
  reason := "user_confirmed_current_plan"
  affectedFields := []
  triggerReplan := false
  lockedFields := []
  metadata := []

def clarifyPatch : StatePatch where
  updates := [.blockers ["Could not identify actionable travel constraints."]]
  reason := "no_actionable_intent_detected"
  affectedFields := ["blockers"]
  triggerReplan := false
  lockedFields := []
  metadata := []

/-- The patch of an actionable message. -/
def actionPatch (intent message : String) (updates : List FieldUpdate) : StatePatch where
  updates := updates
  reason := intent
  affectedFields := pySorted ((updates.map FieldUpdate.name ++ ["itinerary"]).dedup)
  triggerReplan := true
  lockedFields := []
  metadata := [("raw_user_message", .str message)]

namespace TravelAgentRuntime

variable (runtime : TravelAgentRuntime)

/-- `detect_intent_and_patch`. -/
def detectIntentAndPatch (state : AgentState) (message : String) :
    Except String (String × StatePatch) := do
  let text := runtime.lower message
  let days ← extractDays message
  let budget ← extractBudget message
  let updates := messageUpdates text message days budget
  if updates.isEmpty && confirmWords.any fun word ↦ occursIn word text then
    return ("confirm_plan", confirmPatch)
  else if updates.isEmpty then return ("ask_clarification", clarifyPatch)
  else
    let intent := inferIntent state updates
    return (intent, actionPatch intent message updates)

end TravelAgentRuntime

/-! ### The itinerary -/

namespace AgentState

/-- `bool(state.preferences.get(key, False))`. -/
def prefers (state : AgentState) (key : String) : Bool :=
  truthy ((state.preferences.get? key).getD (.bool false))

/-- `state.preferences.get("travel_style", "balanced") == "relaxed"`. -/
def isRelaxed (state : AgentState) : Bool :=
  (state.preferences.get? "travel_style").getD (.str "balanced") == .str "relaxed"

end AgentState

/-- The trace entry for a plan that cannot be made yet. -/
def replanSkipped (state : AgentState) (timestamp : String) : TraceEvent where
  event := "partial_replan_skipped"
  reason := "missing_required_fields"
  payload :=
    [("destination", optionalText state.destination), ("days", optionalInt state.days),
      ("budget", optionalInt state.budget)]
  timestamp := timestamp

/-- The costs of a plan, as the preferences and the actions of a review leave them. -/
structure CostBreakdown where
  flightCost : Int
  hotelCostPerDay : Int
  activityCostPerDay : Int

/-- The cost model of `partial_replan`, its repairs by review actions in their order. -/
def costBreakdown (state : AgentState) (actions : List ReplanAction) : CostBreakdown :=
  let avoidRedEye := state.prefers "avoid_red_eye"
  let nearSubway := state.prefers "hotel_near_subway"
  let flightCost : Int := if avoidRedEye then 2300 else 1800
  let hotelCost : Int := if nearSubway then 850 else 650
  let activityCost : Int := if state.isRelaxed then 300 else 450
  let flightCost : Int :=
    if .changeFlight ∈ actions ∧ avoidRedEye = true then 2300 else flightCost
  let hotelCost : Int :=
    if .changeAccommodation ∈ actions ∧ nearSubway = true then 850 else hotelCost
  let activityCost : Int :=
    if .adjustItineraryStyle ∈ actions ∧ state.isRelaxed = true then 300 else activityCost
  if .reduceCost ∈ actions then
    ⟨flightCost, if nearSubway then hotelCost else 550, min activityCost 250⟩
  else ⟨flightCost, hotelCost, activityCost⟩

def CostBreakdown.dump (costs : CostBreakdown) : Json :=
  .obj [("flight_cost", .int costs.flightCost),
    ("hotel_cost_per_day", .int costs.hotelCostPerDay),
    ("activity_cost_per_day", .int costs.activityCostPerDay)]

/-- The plan that `partial_replan` makes. -/
def buildPlan (state : AgentState) (destination : String) (days : Int) (reason : String)
    (actions : List ReplanAction) : TravelPlan where
  destination := destination
  days := days
  flightType := if state.prefers "avoid_red_eye" then "daytime" else "red_eye"
  hotelTier :=
    if state.prefers "hotel_near_subway" then "near-subway comfort hotel" else "standard hotel"
  poiStyle := if state.isRelaxed then "relaxed itinerary" else "balanced itinerary"
  totalCost :=
    let costs := costBreakdown state actions
    costs.flightCost + days * (costs.hotelCostPerDay + costs.activityCostPerDay)
  notes :=
    ["Generated by partial_replan from current AgentState.", "Replan reason: " ++ reason] ++
      if actions = [] then []
      else ["Review actions: " ++ ", ".intercalate (pySorted (actions.map ReplanAction.value))]

/-- The patch of a finished replan. -/
def replanPatch (plan : TravelPlan) (costs : CostBreakdown) (reviewed : Bool) : StatePatch where
  updates :=
    [.itinerary plan, .currentStage "planned", .blockers []] ++
      if reviewed then [.toolOutputs [("cost_breakdown", costs.dump)]] else []
  reason := "partial_replan_completed"
  affectedFields :=
    ["itinerary", "current_stage", "blockers"] ++ if reviewed then ["tool_outputs"] else []
  triggerReplan := false
  lockedFields := []
  metadata := [("cost_breakdown", costs.dump)]

/-- The three required fields, when each is set to a truthy value. -/
def AgentState.required (state : AgentState) : Option (String × Int × Int) :=
  match state.destination, state.days, state.budget with
  | some destination, some days, some budget =>
    if destination = "" ∨ days = 0 ∨ budget = 0 then none else some (destination, days, budget)
  | _, _, _ => none

/-- `partial_replan`. -/
def partialReplan (state : AgentState) (reason : String) (directives : List ReplanDirective)
    (timestamp : String) : AgentState :=
  match state.required with
  | none => state.appendTrace (replanSkipped state timestamp)
  | some (destination, days, _) =>
    let actions := (directives.map ReplanDirective.actionType).dedup
    state.applyPatch
      (replanPatch (buildPlan state destination days reason actions)
        (costBreakdown state actions) !directives.isEmpty) timestamp

/-! ### Validation -/

/-- An integer in an f-string. -/
def intText (value : Int) : Except String String :=
  match pyStr value with
  | some text => .ok text
  | none => .error digitLimit

/-- An optional integer in an f-string. -/
def optionIntText : Option Int → Except String String
  | some value => intText value
  | none => .ok "None"

/-- A missing text, `None` or empty. -/
def textMissing (value : Option String) : Bool := value.getD "" == ""

/-- A missing number, `None` or zero. -/
def intMissing (value : Option Int) : Bool := value.getD 0 == 0

/-- `validate_required_fields`. -/
def validateRequiredFields (state : AgentState) : List String :=
  (if textMissing state.destination then ["Missing required field: destination"] else []) ++
    (if intMissing state.days then ["Missing required field: days"] else []) ++
    if intMissing state.budget then ["Missing required field: budget"] else []

/-- `validate_budget`. -/
def validateBudget (state : AgentState) : Except String (List String) :=
  match state.itinerary, state.budget with
  | some plan, some budget =>
    if budget < plan.totalCost then do
      let totalCost ← intText plan.totalCost
      let budget ← intText budget
      return ["Budget exceeded: total_cost=" ++ totalCost ++ ", budget=" ++ budget]
    else return []
  | _, _ => return []

/-- `validate_no_red_eye`. -/
def validateNoRedEye (state : AgentState) : List String :=
  match state.itinerary with
  | some plan =>
    if state.prefers "avoid_red_eye" && plan.flightType == "red_eye" then
      ["Flight constraint violated: red-eye flight is not allowed"]
    else []
  | none => []

/-- `validate_itinerary_days`. -/
def validateItineraryDays (state : AgentState) : Except String (List String) :=
  match state.itinerary, state.days with
  | some plan, some days =>
    if plan.days ≠ days then do
      let planned ← intText plan.days
      let requested ← intText days
      return ["Day count mismatch: itinerary_days=" ++ planned ++ ", requested_days=" ++ requested]
    else return []
  | _, _ => return []

/-- `validate`, its `errors`; the runtime leaves the geography check off. -/
def validate (state : AgentState) : Except String (List String) := do
  let budgetErrors ← validateBudget state
  let dayErrors ← validateItineraryDays state
  return validateRequiredFields state ++ budgetErrors ++ validateNoRedEye state ++ dayErrors

/-! ### A turn -/

/-- The reply that shows a plan. -/
def renderPlan (state : AgentState) (plan : TravelPlan) : Except String String := do
  let days ← optionIntText state.days
  let totalCost ← intText plan.totalCost
  let budget ← optionIntText state.budget
  return "Planned " ++ days ++ "-day trip to " ++ state.destination.getD "None" ++ ". Flight="
    ++ plan.flightType ++ ", Hotel=" ++ plan.hotelTier ++ ", Style=" ++ plan.poiStyle
    ++ ", Estimated cost=" ++ totalCost ++ ", Budget=" ++ budget ++ "."

/-- `render_response`. -/
def renderResponse (state : AgentState) : Except String String :=
  if state.blockers ≠ [] then
    return "The runtime stopped because there are unresolved blockers: "
      ++ "; ".intercalate state.blockers
  else
    match state.itinerary with
    | none => return "The runtime updated the state, but no itinerary was generated yet."
    | some plan => renderPlan state plan

/-- The patch of a failed validation. -/
def failurePatch (state : AgentState) (retryLimit : Int) (errors : List String) : StatePatch :=
  if retryLimit ≤ state.retryCount then
    { updates := [.blockers errors, .currentStage "blocked"]
      reason := "retry_limit_exceeded_blocker_propagated"
      affectedFields := ["blockers", "current_stage"]
      triggerReplan := false
      lockedFields := []
      metadata := [] }
  else
    { updates :=
        [.retryCount (state.retryCount + 1), .blockers errors, .currentStage "needs_repair"]
      reason := "validation_failed_runtime_can_retry"
      affectedFields := ["retry_count", "blockers", "current_stage"]
      triggerReplan := false
      lockedFields := []
      metadata := [] }

/-- The clock readings of the trace entries of a turn. -/
structure TurnStamps where
  intentDetected : String
  patchApplied : String
  replanned : String
  validationFinished : String
  failureHandled : String

/-- A message with the clock readings of its turn. -/
structure Turn where
  message : String
  stamps : TurnStamps

def intentDetected (intent : String) (turn : Turn) : TraceEvent where
  event := "intent_detected"
  reason := intent
  payload := [("user_message", .str turn.message)]
  timestamp := turn.stamps.intentDetected

def validationFinished (errors : List String) (turn : Turn) : TraceEvent where
  event := "validation_finished"
  reason := if errors = [] then "passed" else "failed"
  payload := [("errors", .arr (errors.map .str))]
  timestamp := turn.stamps.validationFinished

namespace TravelAgentRuntime

variable (runtime : TravelAgentRuntime)

/-- `handle_validation_failure`. -/
def handleValidationFailure (state : AgentState) (errors : List String) (timestamp : String) :
    AgentState :=
  state.applyPatch (failurePatch state runtime.retryLimit errors) timestamp

/-- The state that a turn validates: the patch applied and the plan rebuilt. -/
def patched (state : AgentState) (turn : Turn) (intent : String) (patch : StatePatch) :
    AgentState :=
  let applied := (state.appendTrace (intentDetected intent turn)).applyPatch patch
    turn.stamps.patchApplied
  if patch.triggerReplan then partialReplan applied patch.reason [] turn.stamps.replanned
  else applied

/-- `handle_user_message`. -/
def handleUserMessage (state : AgentState) (turn : Turn) : Except String TravelResponse := do
  let (intent, patch) ← runtime.detectIntentAndPatch state turn.message
  let state := patched state turn intent patch
  let errors ← validate state
  let state := state.appendTrace (validationFinished errors turn)
  let state :=
    if errors = [] then state
    else runtime.handleValidationFailure state errors turn.stamps.failureHandled
  let message ← renderResponse state
  return ⟨message, state, errors⟩

/-- The state after a turn; a turn that raises leaves it as it was. -/
def afterTurn (state : AgentState) (turn : Turn) : AgentState :=
  match runtime.handleUserMessage state turn with
  | .ok response => response.state
  | .error _ => state

/-- The state after a conversation. -/
def converse (threadId : String) (turns : List Turn) : AgentState :=
  turns.foldl runtime.afterTurn (.initial threadId)

end TravelAgentRuntime

end AgentRuntime.Travel
