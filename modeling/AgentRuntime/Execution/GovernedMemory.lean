import AgentRuntime.Execution.Evidence

/-!
# `GovernedMemory` and the travel memory policy

The boundary between a Run and the memories of its subject. `retrieve` seals the snapshot of the
Run before the tool loop starts; `remember` upserts what the message asks to remember after the loop
ended, and mirrors the audit events of the Run into its public event stream. Every call carries the
lease token of the attempt. `TravelMemoryPolicy` says which memories the travel runtimes read and
which ones a message yields.
-/

set_option autoImplicit false
set_option relaxedAutoImplicit false

namespace AgentRuntime.Execution

open Library Store

/-! ### Calls of the memory store -/

namespace MemoryStore

def upsertFromRun (leaseToken : String) (scope : MemoryScope) (write : MemoryWrite)
    (sourceRunId sourceThreadId actorSubjectId : String) : Quiet MemoryMutationResult :=
  memoryCall (.upsertFromRun leaseToken scope write sourceRunId sourceThreadId actorSubjectId) rfl

def getOrCreateRunSnapshotForRun (leaseToken runId : String) (scope : MemoryScope)
    (allowedKeys : List String) : Quiet MemorySnapshot :=
  memoryCall (.getOrCreateRunSnapshotForRun leaseToken runId scope (some allowedKeys)) rfl

def listEventsForRun (runId tenantId subjectId : String) : Quiet (List (Nat × MemoryEventRow)) :=
  memoryCall (.listEventsForRun runId tenantId subjectId) rfl

end MemoryStore

/-! ### `GovernedMemory` -/

def memoryReadPermission : String := "memory:read"

def memoryWritePermission : String := "memory:write"

namespace GovernedMemory

/-- `_require_lease_token`. -/
def requireLeaseToken (context : RuntimeExecutionContext) : Quiet String :=
  match context.leaseToken with
  | some token => if token.isEmpty then lost else return token
  | none => lost
where
  lost : Quiet String :=
    throw (.store (.runLeaseLost ("Run execution has no lease token: " ++ context.runId)))

/-- The scope of a context: its tenant and subject in one domain. -/
def memoryScope (context : RuntimeExecutionContext) (domainId : String) : MemoryScope :=
  ⟨context.authority.tenantId, context.authority.subjectId, domainId⟩

/-- `_ensure_run_event`. -/
def ensureRunEvent (context : RuntimeExecutionContext) (eventType : String) (payload : Payload)
    (identityKey : String) (identityValue : Json) : Quiet Unit := do
  let events ← runEvents context.runId
  if events.any fun event ↦
      event.eventType == eventType && event.payload.getD identityKey == identityValue then
    return
  let leaseToken ← requireLeaseToken context
  discard <| appendRunEvent context.runId eventType payload (some leaseToken)

/-- The payload of `memory.retrieved`. -/
def retrievedPayload (snapshot : MemorySnapshot) : Payload :=
  [("snapshot_id", .str snapshot.runId), ("domain_id", .str snapshot.domainId),
    ("created_at", .str snapshot.createdAt), ("count", Json.nat snapshot.memories.length),
    ("memories", .arr (snapshot.memories.map fun memory ↦
      .obj [("memory_id", .str memory.memoryId), ("kind", .str memory.kind.text),
        ("key", .str memory.key), ("version", Json.nat memory.version)]))]

/-- `retrieve`. -/
def retrieve (context : RuntimeExecutionContext) (domainId : String) (allowedKeys : List String) :
    Quiet MemorySnapshot := do
  if !allows context.authority memoryReadPermission then
    raiseExecution "memory_permission_denied"
      "Memory read denied by persisted execution authority."
  let leaseToken ← requireLeaseToken context
  let snapshot ← MemoryStore.getOrCreateRunSnapshotForRun leaseToken context.runId
    (memoryScope context domainId) (allowedKeys.dedup.insertionSort (· ≤ ·))
  ensureRunEvent context "memory.retrieved" (retrievedPayload snapshot) "snapshot_id"
    (.str snapshot.runId)
  return snapshot

/-- The Run event that mirrors an audit event. -/
def mirrorPayload (eventId : Nat) (event : MemoryEventRow) : Payload :=
  event.payload.foldl (fun payload field ↦ payload.set field.1 field.2)
    [("audit_event_id", Json.nat eventId), ("memory_id", textColumn event.memoryId)]

/-- The loop of `_mirror_mutation_events` over the audit events of the Run. -/
def mirrorEvents (context : RuntimeExecutionContext) :
    List (Nat × MemoryEventRow) → List (String × Json) → Quiet Unit
  | [], _ => return
  | (eventId, event) :: rest, existing => do
    let identity := (event.eventType, Json.nat eventId)
    if existing.contains identity then mirrorEvents context rest existing
    else
      let leaseToken ← requireLeaseToken context
      discard <| appendRunEvent context.runId event.eventType (mirrorPayload eventId event)
        (some leaseToken)
      mirrorEvents context rest (existing ++ [identity])

/-- `_mirror_mutation_events`. -/
def mirrorMutationEvents (context : RuntimeExecutionContext) : Quiet Unit := do
  let events ← runEvents context.runId
  let existing := events.filterMap fun event ↦
    match event.payload.getD "audit_event_id" with
    | .null => none
    | value => some (event.eventType, value)
  let audit ← MemoryStore.listEventsForRun context.runId context.authority.tenantId
    context.authority.subjectId
  mirrorEvents context audit existing

/-- The loop of `remember` over the writes. -/
def upsertAll (context : RuntimeExecutionContext) (leaseToken domainId sourceThreadId : String) :
    List MemoryWrite → Quiet Unit
  | [] => return
  | write :: rest => do
    discard <| MemoryStore.upsertFromRun leaseToken (memoryScope context domainId) write
      context.runId sourceThreadId context.authority.subjectId
    upsertAll context leaseToken domainId sourceThreadId rest

/-- `remember`. -/
def remember (context : RuntimeExecutionContext) (domainId sourceThreadId : String)
    (writes : List MemoryWrite) : Quiet Unit := do
  if writes.isEmpty then return
  if !allows context.authority memoryWritePermission then
    raiseExecution "memory_permission_denied"
      "Memory write denied by persisted execution authority."
  let leaseToken ← requireLeaseToken context
  upsertAll context leaseToken domainId sourceThreadId writes
  mirrorMutationEvents context

end GovernedMemory

/-! ### Policies -/

/-- The memory policy of a runtime: what it reads, how it overlays its state with what it read, and
what a message asks it to remember. -/
structure MemoryPolicy where
  domainId : String
  supportedKeys : List String
  overlay : RuntimeState → List RetrievedMemory → Except Failure RuntimeState
  extract : Payload → List MemoryWrite
  restore : RuntimeState → RuntimeState → RuntimeState

/-- The preferences that `parse_explicit_travel_preferences` finds in a message. -/
structure TravelPreferences where
  avoidRedEye : Option Bool
  hotelNearSubway : Option Bool
  travelStyle : Option String

namespace TravelMemoryPolicy

def avoidRedEyeKey : String := "flight.avoid_red_eye"

def hotelNearSubwayKey : String := "hotel.near_subway"

def travelStyleKey : String := "travel.style"

/-- `SUPPORTED_KEYS`. -/
def supportedKeys : List String := [avoidRedEyeKey, hotelNearSubwayKey, travelStyleKey]

/-- `_STATE_KEYS`. -/
def stateKeys : List (String × String) :=
  [(avoidRedEyeKey, "avoid_red_eye"), (hotelNearSubwayKey, "hotel_near_subway"),
    (travelStyleKey, "travel_style")]

/-- `_validate_value`. -/
def validValue (key : String) (value : Json) : Bool :=
  if key = avoidRedEyeKey ∨ key = hotelNearSubwayKey then
    match value with
    | .bool _ => true
    | _ => false
  else value == .str "balanced" || value == .str "relaxed"

/-- The preferences of a travel state. -/
def preferencesOf (state : RuntimeState) : Payload :=
  match state.fields.getD "preferences" with
  | .obj preferences => preferences
  | _ => []

/-- `state.model_copy(update={"preferences": …})`. -/
def withPreferences (state : RuntimeState) (preferences : Payload) : RuntimeState :=
  { state with fields := Payload.set state.fields "preferences" (.obj preferences) }

/-- The loop of `apply` over the retrieved memories. -/
def applyAll (preferences : Payload) : List RetrievedMemory → Except Failure Payload
  | [] => .ok preferences
  | memory :: rest =>
    match memory.kind, stateKeys.lookup memory.key with
    | .preference, some stateKey =>
      if validValue memory.key memory.value then
        applyAll (preferences.set stateKey memory.value) rest
      else
        .error (.runtimeExecution "invalid_memory_record"
          "Retrieved memory value failed Travel policy validation.")
    | _, _ =>
      .error (.runtimeExecution "invalid_memory_record"
        "Retrieved memory is not valid for the Travel memory policy.")

/-- `apply`. -/
def overlay (state : RuntimeState) (memories : List RetrievedMemory) :
    Except Failure RuntimeState :=
  (applyAll (preferencesOf state) memories).map (withPreferences state)

/-- `restore_checkpoint_preferences`. -/
def restore (original state : RuntimeState) : RuntimeState :=
  withPreferences state (stateKeys.foldl
    (fun preferences keys ↦
      match (preferencesOf original).get? keys.2 with
      | some value => preferences.set keys.2 value
      | none => preferences.filter fun field ↦ field.1 ≠ keys.2)
    (preferencesOf state))

/-- A `MemoryWrite` of a preference. -/
def preference (key : String) (value : Json) : MemoryWrite :=
  ⟨.preference, key, value, 1, none⟩

/-- `extract`: the candidates in the order of their keys. -/
def extract (preferences : TravelPreferences) : List MemoryWrite :=
  (preferences.avoidRedEye.map fun value ↦ preference avoidRedEyeKey (.bool value)).toList ++
    (preferences.hotelNearSubway.map fun value ↦
      preference hotelNearSubwayKey (.bool value)).toList ++
    (preferences.travelStyle.map fun value ↦ preference travelStyleKey (.str value)).toList

/-- `user_message` of a `TravelMessageInput`. -/
def userMessage (runtimeInput : Payload) : String :=
  match runtimeInput.getD "user_message" with
  | .str message => message
  | _ => ""

/-- `TravelMemoryPolicy`, given what the parser of explicit preferences finds. -/
def policy (parse : String → TravelPreferences) : MemoryPolicy where
  domainId := "travel"
  supportedKeys := supportedKeys
  overlay := overlay
  extract := fun runtimeInput ↦ extract (parse (userMessage runtimeInput))
  restore := restore

end TravelMemoryPolicy

end AgentRuntime.Execution
