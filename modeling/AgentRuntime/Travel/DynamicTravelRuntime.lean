import AgentRuntime.Execution.DynamicLoop
import AgentRuntime.Execution.GovernedMemory

/-!
# `DynamicTravelRuntime`

The travel adapter of the dynamic tool loop. A turn lays the memories of the Run's snapshot over the
preferences of the thread, parses the constraints of the message into the state, runs the loop, and
takes the overlay off again before the state is returned. What Python's `str.lower` and `re.search`
find in a text, and what pydantic makes of the itinerary of a result, are parameters; the clock
readings of the trace entries are arguments.
-/

set_option autoImplicit false
set_option relaxedAutoImplicit false

namespace AgentRuntime.Travel

open Library Store Execution

/-! ### States -/

/-- `TravelPlan`. -/
structure TravelPlan where
  destination : String
  days : Int
  flightType : String
  hotelTier : String
  poiStyle : String
  totalCost : Int
  notes : List String

/-- `AgentState`. The preferences are a dictionary: no key occurs twice. -/
structure AgentState where
  threadId : String
  executionTrace : List TraceEvent
  destination : Option String
  days : Option Int
  budget : Option Int
  preferences : Payload
  preferences_nodup : (preferences.map Prod.fst).Nodup
  itinerary : Option TravelPlan
  toolOutputs : Payload
  blockers : List String
  retryCount : Int
  currentStage : String

/-- A text or `None`. -/
def optionalText : Option String → Json
  | some text => .str text
  | none => .null

/-- A number or `None`. -/
def optionalInt : Option Int → Json
  | some value => .int value
  | none => .null

/-- A trace entry as it is serialized. -/
def traceJson (entry : TraceEvent) : Json :=
  .obj [("event", .str entry.event), ("reason", .str entry.reason),
    ("payload", .obj entry.payload), ("timestamp", .str entry.timestamp)]

/-- `itinerary.model_dump(mode="json")`. -/
def TravelPlan.dump (plan : TravelPlan) : Json :=
  .obj [("destination", .str plan.destination), ("days", .int plan.days),
    ("flight_type", .str plan.flightType), ("hotel_tier", .str plan.hotelTier),
    ("poi_style", .str plan.poiStyle), ("total_cost", .int plan.totalCost),
    ("notes", .arr (plan.notes.map Json.str))]

namespace AgentState

/-- `state.model_dump(mode="json")`. -/
def dump (state : AgentState) : Payload :=
  [("thread_id", .str state.threadId),
    ("execution_trace", .arr (state.executionTrace.map traceJson)),
    ("destination", optionalText state.destination), ("days", optionalInt state.days),
    ("budget", optionalInt state.budget), ("preferences", .obj state.preferences),
    ("itinerary", (state.itinerary.map TravelPlan.dump).getD .null),
    ("tool_outputs", .obj state.toolOutputs),
    ("blockers", .arr (state.blockers.map Json.str)), ("retry_count", .int state.retryCount),
    ("current_stage", .str state.currentStage)]

/-- `append_trace`. -/
def appendTrace (state : AgentState) (entry : TraceEvent) : AgentState :=
  { state with executionTrace := state.executionTrace ++ [entry] }

/-- `project_thread_checkpoint_state`. -/
def projectThreadCheckpoint (state : AgentState) : AgentState := { state with executionTrace := [] }

end AgentState

/-! ### Preferences -/

/-- `preferences.update(updates)`. -/
def updated (preferences updates : Payload) : Payload :=
  updates.foldl (fun preferences field ↦ preferences.set field.1 field.2) preferences

/-- `_STATE_KEYS.values()`: the preference keys that memories are laid over. -/
def supportedStateKeys : List String := TravelMemoryPolicy.stateKeys.map Prod.snd

/-- One round of `restore_checkpoint_preferences`: the key gets its original value back, or goes. -/
def restoreKey (original preferences : Payload) (key : String) : Payload :=
  match original.get? key with
  | some value => preferences.set key value
  | none => preferences.filter fun field ↦ field.1 ≠ key

/-- The loop of `restore_checkpoint_preferences`. -/
def restorePreferences (original preferences : Payload) : Payload :=
  supportedStateKeys.foldl (restoreKey original) preferences

theorem set_keys (preferences : Payload) (key : String) (value : Json) :
    (preferences.set key value).map Prod.fst =
      if (preferences.get? key).isSome then preferences.map Prod.fst
      else preferences.map Prod.fst ++ [key] := by
  unfold Payload.set
  split_ifs with hpresent
  · rw [List.map_map]
    refine List.map_congr_left fun field _ ↦ ?_
    by_cases hkey : field.1 = key
    · simp [hkey]
    · simp [hkey]
  · simp

theorem get?_isSome_iff (preferences : Payload) (key : String) :
    (preferences.get? key).isSome = true ↔ key ∈ preferences.map Prod.fst := by
  simp [Payload.get?, Json.lookup, List.find?_isSome]

/-- Setting a key keeps the keys distinct. -/
theorem nodup_set {preferences : Payload} (hnodup : (preferences.map Prod.fst).Nodup)
    (key : String) (value : Json) : ((preferences.set key value).map Prod.fst).Nodup := by
  rw [set_keys]
  split_ifs with hpresent
  · exact hnodup
  · rw [get?_isSome_iff] at hpresent
    exact List.nodup_append.2 ⟨hnodup, List.nodup_singleton key, by
      rintro other hother _ hkey rfl
      exact hpresent (List.mem_singleton.1 hkey ▸ hother)⟩

theorem nodup_updated {preferences : Payload} (hnodup : (preferences.map Prod.fst).Nodup)
    (updates : Payload) : ((updated preferences updates).map Prod.fst).Nodup := by
  unfold updated
  induction updates generalizing preferences with
  | nil => exact hnodup
  | cons field rest ih => exact ih (nodup_set hnodup field.1 field.2)

theorem nodup_applyAll {preferences merged : Payload} {memories : List RetrievedMemory}
    (hnodup : (preferences.map Prod.fst).Nodup)
    (hmerged : TravelMemoryPolicy.applyAll preferences memories = .ok merged) :
    (merged.map Prod.fst).Nodup := by
  induction memories generalizing preferences with
  | nil => exact Except.ok.inj hmerged ▸ hnodup
  | cons memory rest ih =>
    unfold TravelMemoryPolicy.applyAll at hmerged
    split at hmerged
    · split_ifs at hmerged
      exact ih (nodup_set hnodup _ _) hmerged
    · cases hmerged

theorem nodup_restorePreferences (original : Payload) {preferences : Payload}
    (hnodup : (preferences.map Prod.fst).Nodup) :
    ((restorePreferences original preferences).map Prod.fst).Nodup := by
  unfold restorePreferences
  generalize supportedStateKeys = keys
  induction keys generalizing preferences with
  | nil => exact hnodup
  | cons key rest ih =>
    refine ih ?_
    unfold restoreKey
    split
    · exact nodup_set hnodup key _
    · exact hnodup.sublist (List.filter_sublist.map Prod.fst)

namespace AgentState

/-- `TravelMemoryPolicy.apply`. -/
def applyMemories (state : AgentState) (memories : List RetrievedMemory) :
    Except Failure AgentState :=
  match hmerged : TravelMemoryPolicy.applyAll state.preferences memories with
  | .error failure => .error failure
  | .ok preferences =>
    .ok { state with
      preferences := preferences
      preferences_nodup := nodup_applyAll state.preferences_nodup hmerged }

/-- `TravelMemoryPolicy.restore_checkpoint_preferences`. -/
def restoreCheckpointPreferences (state : AgentState) (original : Payload) : AgentState :=
  { state with
    preferences := restorePreferences original state.preferences
    preferences_nodup := nodup_restorePreferences original state.preferences_nodup }

end AgentState

/-! ### Parsing a message -/

/-- What Python's text functions and regular expressions find: `str.lower`, the destination after a
travel verb, the day counts in both languages, the budget patterns in their order, and
`parse_explicit_travel_preferences`. -/
structure TextPatterns where
  lower : String → String
  destinationMatch : String → Option String
  daysMatch : String → Option Int
  chineseDaysMatch : String → Option Int
  budgetMatches : List (String → Option Int)
  parseExplicit : String → TravelPreferences

/-- `token in text`. -/
def occursIn (token text : String) : Bool := token.toList <:+: text.toList

/-- `_KNOWN_DESTINATIONS`. -/
def knownDestinations : List (String × String) :=
  [("tokyo", "Tokyo"), ("东京", "Tokyo"), ("kyoto", "Kyoto"), ("京都", "Kyoto"),
    ("singapore", "Singapore"), ("新加坡", "Singapore"), ("paris", "Paris"), ("巴黎", "Paris"),
    ("bali", "Bali"), ("巴厘岛", "Bali"), ("seoul", "Seoul"), ("首尔", "Seoul")]

namespace TextPatterns

variable (patterns : TextPatterns)

/-- The destination that a message names: a known one, or the one after a travel verb. -/
def destination (message : String) : Option String :=
  let text := patterns.lower message
  match knownDestinations.find? fun entry ↦
      occursIn entry.1 text || occursIn entry.1 message with
  | some entry => some entry.2
  | none => patterns.destinationMatch message

/-- The day count that a message names. -/
def days (message : String) : Option Int :=
  (patterns.daysMatch (patterns.lower message)).or (patterns.chineseDaysMatch message)

/-- The budget that a message names: that of the first pattern that matches. -/
def budget (message : String) : Option Int :=
  patterns.budgetMatches.findSome? fun search ↦ search message

/-- `parse_legacy_travel_preferences`. -/
def parseLegacy (message : String) : Payload :=
  let text := patterns.lower message
  (if occursIn "red-eye" text || occursIn "red eye" text || occursIn "红眼" message then
      [("avoid_red_eye",
        .bool !(occursIn "allow red-eye" text || occursIn "allow red eye" text))]
    else []) ++
  (if occursIn "near subway" text || occursIn "靠近地铁" message then
      [("hotel_near_subway", .bool true)]
    else []) ++
  (if occursIn "relaxed" text || occursIn "轻松" message then
      [("travel_style", .str "relaxed")]
    else [])

/-- `parse_explicit_travel_preferences` as the dictionary it returns. -/
def explicitPreferences (message : String) : Payload :=
  let found := patterns.parseExplicit message
  (found.avoidRedEye.map fun value ↦ ("avoid_red_eye", Json.bool value)).toList ++
    (found.hotelNearSubway.map fun value ↦ ("hotel_near_subway", Json.bool value)).toList ++
    (found.travelStyle.map fun value ↦ ("travel_style", Json.str value)).toList

end TextPatterns

/-! ### The runtime -/

/-- `DynamicTravelRuntime`: the loop, whether governed memory and its policy are configured, and the
parser of preferences. -/
structure DynamicTravelRuntime where
  loop : DynamicToolLoop
  governedMemory : Bool
  patterns : TextPatterns
  preferenceParser : String → Payload
  validatePlan : Payload → Option TravelPlan

/-- The clock readings of the trace entries of a turn. -/
structure TraceStamps where
  memoryContextApplied : String
  inputPrepared : String
  loopFinished : String

/-- `RuntimeResponse[AgentState]`. -/
structure TravelResponse where
  message : String
  state : AgentState
  validationErrors : List String

/-- The trace entry for the snapshot that was laid over the state. -/
def memoryContextApplied (snapshot : MemorySnapshot) (timestamp : String) : TraceEvent where
  event := "memory_context_applied"
  reason := "run_memory_snapshot_loaded"
  payload :=
    [("snapshot_id", .str snapshot.runId),
      ("memories", .arr (snapshot.memories.map fun memory ↦
        .obj [("memory_id", .str memory.memoryId), ("key", .str memory.key),
          ("version", Json.nat memory.version)]))]
  timestamp := timestamp

/-- The trace entry for the parsed constraints. -/
def inputPrepared (state : AgentState) (timestamp : String) : TraceEvent where
  event := "dynamic_input_prepared"
  reason := "travel_constraints_parsed"
  payload :=
    [("destination", optionalText state.destination), ("days", optionalInt state.days),
      ("budget", optionalInt state.budget), ("preferences", .obj state.preferences)]
  timestamp := timestamp

/-- The trace entry for the end of the loop. -/
def loopFinished (result : DynamicLoopResult) (timestamp : String) : TraceEvent where
  event := "dynamic_loop_finished"
  reason := result.outcome.text
  payload :=
    [("tool_call_count", Json.nat result.observations.length),
      ("validation_errors", .arr (result.validationErrors.map Json.str))]
  timestamp := timestamp

/-- The tool outputs of a result, by step. -/
def toolOutputs (result : DynamicLoopResult) : Payload :=
  result.observations.foldl (fun outputs observation ↦ outputs.set observation.stepId
    (.obj [("tool_name", .str observation.toolName), ("arguments", .obj observation.arguments),
      ("result", .obj observation.result), ("cached", .bool observation.cached)])) []

namespace DynamicTravelRuntime

variable (runtime : DynamicTravelRuntime)

/-- `_prepare_state`. -/
def prepareState (state : AgentState) (message : String) : AgentState :=
  { state with
    itinerary := none
    toolOutputs := []
    blockers := []
    currentStage := "planning"
    destination := (runtime.patterns.destination message).or state.destination
    days := (runtime.patterns.days message).or state.days
    budget := (runtime.patterns.budget message).or state.budget
    preferences := updated state.preferences (runtime.preferenceParser message)
    preferences_nodup := nodup_updated state.preferences_nodup _ }

/-- The first part of `execute`: the snapshot of the Run is laid over the state. -/
def overlaid (state : AgentState) (context : RuntimeExecutionContext) (timestamp : String) :
    Quiet AgentState :=
  if runtime.governedMemory then do
    let snapshot ← GovernedMemory.retrieve context "travel" TravelMemoryPolicy.supportedKeys
    match state.applyMemories snapshot.memories with
    | .ok merged => return merged.appendTrace (memoryContextApplied snapshot timestamp)
    | .error failure => throw failure
  else return state

/-- What the message asks to remember is remembered. -/
def remember (context : RuntimeExecutionContext) (message : String) : Quiet Unit :=
  if runtime.governedMemory then
    GovernedMemory.remember context "travel" context.threadId
      (TravelMemoryPolicy.extract (runtime.patterns.parseExplicit message))
  else return

/-- The itinerary in the output of a result, if there is one. -/
def itineraryOf (result : DynamicLoopResult) : Except Failure (Option TravelPlan) :=
  match result.output.get? "itinerary" with
  | some (.obj payload) =>
    match runtime.validatePlan payload with
    | some plan => .ok (some plan)
    | none => .error (.validation "TravelPlan")
  | _ => .ok none

/-- The state after the loop ended with a result. -/
def concluded (prepared : AgentState) (result : DynamicLoopResult) : Except Failure AgentState :=
  if result.outcome = .clarification then
    .ok { prepared with
      currentStage := "needs_clarification"
      blockers := [result.message]
      toolOutputs := toolOutputs result
      itinerary := none }
  else
    (runtime.itineraryOf result).map fun itinerary ↦
      { prepared with
        currentStage := if result.outcome = .finished then "planned" else "blocked"
        blockers := result.validationErrors
        toolOutputs := toolOutputs result
        itinerary := itinerary }

/-- The last part of `execute`: the overlay is taken off again. -/
def withoutOverlay (original : Payload) (state : AgentState) : AgentState :=
  if runtime.governedMemory then state.restoreCheckpointPreferences original else state

/-- `execute` from the prepared state on. -/
def executePrepared (original : Payload) (parsed : AgentState) (runtimeInput : Payload)
    (context : RuntimeExecutionContext) (stamps : TraceStamps) : Runtime TravelResponse := do
  let prepared := parsed.appendTrace (inputPrepared parsed stamps.inputPrepared)
  let result ← runtime.loop.execute context runtimeInput prepared.dump
  runtime.remember context (TravelMemoryPolicy.userMessage runtimeInput)
  match runtime.concluded prepared result with
  | .error failure => throw failure
  | .ok updated =>
    let traced := updated.appendTrace (loopFinished result stamps.loopFinished)
    return ⟨result.message, runtime.withoutOverlay original traced, result.validationErrors⟩

/-- `execute`. -/
def execute (state : AgentState) (runtimeInput : Payload) (context : RuntimeExecutionContext)
    (stamps : TraceStamps) : Runtime TravelResponse := do
  let merged ← runtime.overlaid state context stamps.memoryContextApplied
  runtime.executePrepared state.preferences
    (runtime.prepareState merged (TravelMemoryPolicy.userMessage runtimeInput)) runtimeInput context
    stamps

end DynamicTravelRuntime

end AgentRuntime.Travel
