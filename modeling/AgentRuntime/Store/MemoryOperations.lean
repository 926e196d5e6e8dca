import AgentRuntime.Store.Quarantine

/-!
# The operations of `SQLiteMemoryStore`

Governed memory shares the SQLite file and fences the writes of a Run attempt on its own: the Run's
identity is checked first, then its lease, both inside the write transaction. The administrative
variants carry no lease token and skip the lease check.
-/

set_option autoImplicit false
set_option relaxedAutoImplicit false

namespace AgentRuntime.Store

open Library

/-- `MemoryWrite`. -/
structure MemoryWrite where
  kind : MemoryKind
  key : String
  value : Json
  confidence : Rat
  expiresAt : Option String

/-- `MemoryMutationAction`. -/
inductive MemoryMutationAction where
  | created
  | superseded
  | unchanged
  deriving DecidableEq

/-- `MemoryMutationResult`, each record with its id. -/
structure MemoryMutationResult where
  action : MemoryMutationAction
  record : String × MemoryRow
  supersededRecord : Option (String × MemoryRow)

/-- Who a memory belongs to. -/
structure MemoryScope where
  tenantId : String
  subjectId : String
  domainId : String

/-- `_validate_identity` on one value. -/
def validIdentityField (value : String) : Bool :=
  !value.isEmpty && decide (value.length ≤ 200)

/-- `_validate_identity` on a scope. -/
def MemoryScope.valid (scope : MemoryScope) : Bool :=
  validIdentityField scope.tenantId && validIdentityField scope.subjectId &&
    validIdentityField scope.domainId

/-- `_assert_run_identity`. -/
def assertRunIdentity (db : Database) (runId : String) (scope : MemoryScope) :
    Except StoreError Unit :=
  match db.runs.find runId with
  | none => .error (.valueError "Run identity does not match memory snapshot authority")
  | some row =>
    if row.tenantId ≠ scope.tenantId ∨ row.domainId ≠ scope.domainId then
      .error (.valueError "Run identity does not match memory snapshot authority")
    else
      match row.executionAuthority with
      | none => .error (.valueError "Run has no trusted authority for a memory snapshot")
      | some authority =>
        if authority.subjectId ≠ scope.subjectId then
          .error (.valueError "Run identity does not match memory snapshot authority")
        else .ok ()

/-- `_assert_current_run_lease` of the memory store. -/
def assertMemoryLease (db : Database) (nowMs : Int) (runId leaseToken : String) :
    Except StoreError Unit :=
  match currentAttempt db runId leaseToken nowMs with
  | none => .error (.runLeaseLost ("Run lease is no longer current: " ++ runId))
  | some _ => .ok ()

/-- The row is a version of the memory under this key. -/
def MemoryRow.isVersionOf (row : MemoryRow) (scope : MemoryScope) (kind : MemoryKind)
    (key : String) : Bool :=
  row.tenantId == scope.tenantId && row.subjectId == scope.subjectId &&
    row.domainId == scope.domainId && row.kind == kind && row.key == key

/-- An appended `memory_events` row. -/
def appendMemoryEvent (db : Database) (event : MemoryEventRow) : Database :=
  { db with memoryEvents := db.memoryEvents ++ [event] }

/-- The transaction of `_upsert` after its lease check. -/
def upsertMemory (db : Database) (reading : Reading) (scope : MemoryScope) (write : MemoryWrite)
    (sourceRunId sourceThreadId actorSubjectId : String) :
    Except StoreError (MemoryMutationResult × Database) :=
  let now := reading.utcNow 0
  let active := db.memoryRecords.rows.find? fun entry ↦
    entry.2.isVersionOf scope write.kind write.key && entry.2.status == .active
  let version := ((db.memoryRecords.rows.filter fun entry ↦
    entry.2.isVersionOf scope write.kind write.key).map fun entry ↦ entry.2.version).foldr max 0 + 1
  let record : MemoryRow :=
    { tenantId := scope.tenantId
      subjectId := scope.subjectId
      domainId := scope.domainId
      kind := write.kind
      key := write.key
      value := write.value.sortKeys
      status := .active
      sourceRunId := some sourceRunId
      sourceThreadId := some sourceThreadId
      confidence := write.confidence
      version := version
      createdAt := now
      updatedAt := now
      expiresAt := write.expiresAt }
  let memoryId := "mem_" ++ reading.uuid 0
  let event (eventType : String) (subject : String) (payload : Payload) (createdAt : String) :
      MemoryEventRow :=
    { tenantId := scope.tenantId
      subjectId := scope.subjectId
      eventType := eventType
      memoryId := some subject
      actorSubjectId := actorSubjectId
      sourceRunId := some sourceRunId
      payload := payload
      createdAt := createdAt }
  let created := event "memory.created" memoryId
    [("domain_id", .str scope.domainId), ("kind", .str write.kind.text), ("key", .str write.key),
      ("version", Json.nat version)] (reading.utcNow 2)
  match active with
  | some (activeId, row) =>
    if row.value = write.value.sortKeys ∧ row.expiresAt = write.expiresAt then
      .ok (⟨.unchanged, (activeId, row), none⟩, db)
    else if (db.memoryRecords.find memoryId).isSome then
      .error (.integrityError "memory_records.memory_id")
    else if !validIdentityField actorSubjectId then
      .error (.valueError "actor_subject_id must contain 1 to 200 characters")
    else
      let superseded : MemoryRow := { row with status := .superseded, updatedAt := now }
      let updated := { db with
        memoryRecords :=
          (db.memoryRecords.modify activeId fun _ ↦ superseded).insert memoryId record }
      .ok (⟨.superseded, (memoryId, record), some (activeId, superseded)⟩,
        appendMemoryEvent (appendMemoryEvent updated (event "memory.superseded" activeId
          [("domain_id", .str scope.domainId), ("kind", .str write.kind.text),
            ("key", .str write.key), ("version", Json.nat row.version),
            ("replacement_memory_id", .str memoryId),
            ("replacement_version", Json.nat version)] (reading.utcNow 1))) created)
  | none =>
    if (db.memoryRecords.find memoryId).isSome then
      .error (.integrityError "memory_records.memory_id")
    else if !validIdentityField actorSubjectId then
      .error (.valueError "actor_subject_id must contain 1 to 200 characters")
    else
      .ok (⟨.created, (memoryId, record), none⟩,
        appendMemoryEvent { db with memoryRecords := db.memoryRecords.insert memoryId record }
          created)

/-- `upsert`: the administrative mutation. -/
def upsert (db : Database) (reading : Reading) (scope : MemoryScope) (write : MemoryWrite)
    (sourceRunId sourceThreadId actorSubjectId : String) :
    Except StoreError (MemoryMutationResult × Database) :=
  if !scope.valid then
    .error (.valueError "Memory identity fields must contain 1 to 200 characters")
  else upsertMemory db reading scope write sourceRunId sourceThreadId actorSubjectId

/-- `upsert_from_run`: the mutation of the current attempt. -/
def upsertFromRun (db : Database) (reading : Reading) (leaseToken : String) (scope : MemoryScope)
    (write : MemoryWrite) (sourceRunId sourceThreadId actorSubjectId : String) :
    Except StoreError (MemoryMutationResult × Database) :=
  if leaseToken.isEmpty then .error (.valueError "lease_token must not be empty")
  else if !scope.valid then
    .error (.valueError "Memory identity fields must contain 1 to 200 characters")
  else
    match assertRunIdentity db sourceRunId scope with
    | .error error => .error error
    | .ok () =>
      match assertMemoryLease db reading.nowMs sourceRunId leaseToken with
      | .error error => .error error
      | .ok () => upsertMemory db reading scope write sourceRunId sourceThreadId actorSubjectId

/-- `forget_memory`: tombstone every version of one key. -/
def forgetMemory (db : Database) (reading : Reading) (memoryId tenantId subjectId : String)
    (actorSubjectId : String) : Except StoreError ((String × MemoryRow) × Database) :=
  match (db.memoryRecords.find memoryId).filter fun row ↦
      row.tenantId == tenantId && row.subjectId == subjectId with
  | none => .error (.keyError "Memory not found")
  | some target =>
    let scope : MemoryScope := ⟨tenantId, subjectId, target.domainId⟩
    let affected := db.memoryRecords.rows.filter fun entry ↦
      entry.2.isVersionOf scope target.kind target.key && entry.2.status != .deleted
    if affected.isEmpty then .ok ((memoryId, target), db)
    else if !validIdentityField actorSubjectId then
      .error (.valueError "actor_subject_id must contain 1 to 200 characters")
    else
      let delete (row : MemoryRow) : MemoryRow :=
        { row with status := .deleted, value := .null, updatedAt := reading.utcNow 0 }
      let deleted := affected.foldl
        (fun records entry ↦ Table.modify records entry.1 delete) db.memoryRecords
      .ok ((memoryId, (deleted.find memoryId).getD target),
        appendMemoryEvent { db with memoryRecords := deleted }
          { tenantId := tenantId
            subjectId := subjectId
            eventType := "memory.deleted"
            memoryId := some memoryId
            actorSubjectId := actorSubjectId
            sourceRunId := none
            payload :=
              [("domain_id", .str target.domainId), ("kind", .str target.kind.text),
                ("key", .str target.key), ("deleted_version_count", Json.nat affected.length)]
            createdAt := reading.utcNow 1 })

/-- `list_events_for_run`. Events are never deleted, so the id of an event is its position. -/
def listMemoryEventsForRun (db : Database) (runId tenantId subjectId : String) :
    List (Nat × MemoryEventRow) :=
  (db.memoryEvents.zipIdx 1).filterMap fun entry ↦
    if entry.1.sourceRunId = some runId ∧ entry.1.tenantId = tenantId ∧
        entry.1.subjectId = subjectId then
      some (entry.2, entry.1)
    else none

/-- `RetrievedMemory.from_record`. -/
def retrievedMemory (entry : String × MemoryRow) : RetrievedMemory where
  memoryId := entry.1
  kind := entry.2.kind
  key := entry.2.key
  value := entry.2.value
  sourceRunId := entry.2.sourceRunId
  sourceThreadId := entry.2.sourceThreadId
  confidence := entry.2.confidence
  version := entry.2.version
  createdAt := entry.2.createdAt
  expiresAt := entry.2.expiresAt

/-- The records a snapshot seals, `ORDER BY kind, memory_key, version`. -/
def snapshotMemories (db : Database) (scope : MemoryScope) (allowedKeys : Option (List String))
    (now : String) : List RetrievedMemory :=
  let visible := db.memoryRecords.rows.filter fun entry ↦
    entry.2.tenantId == scope.tenantId && entry.2.subjectId == scope.subjectId &&
      entry.2.domainId == scope.domainId && entry.2.status == .active &&
      (match entry.2.expiresAt with
        | none => true
        | some expiresAt => decide (now < expiresAt)) &&
      match allowedKeys with
      | none => true
      | some keys => keys.contains entry.2.key
  (visible.insertionSort fun left right ↦
    toLex (left.2.kind.text, toLex (left.2.key, left.2.version)) ≤
      toLex (right.2.kind.text, toLex (right.2.key, right.2.version))).map retrievedMemory

/-- `list_memories`, `ORDER BY domain_id, kind, memory_key, version DESC`. -/
def listMemories (db : Database) (reading : Reading) (tenantId subjectId : String)
    (domainId : Option String) (kind : Option MemoryKind) (includeInactive : Bool) :
    Except StoreError (List (String × MemoryRow)) :=
  if !(validIdentityField tenantId && validIdentityField subjectId) then
    .error (.valueError "Memory identity fields must contain 1 to 200 characters")
  else
    let selected := db.memoryRecords.rows.filter fun entry ↦
      entry.2.tenantId == tenantId && entry.2.subjectId == subjectId &&
        (match domainId with
          | none => true
          | some domainId => entry.2.domainId == domainId) &&
        (match kind with
          | none => true
          | some kind => entry.2.kind == kind) &&
        (includeInactive || (entry.2.status == .active &&
          match entry.2.expiresAt with
          | none => true
          | some expiresAt => decide (reading.utcNow 0 < expiresAt)))
    .ok (selected.insertionSort fun left right ↦
      toLex (left.2.domainId, toLex (left.2.kind.text,
          toLex (left.2.key, OrderDual.toDual left.2.version))) ≤
        toLex (right.2.domainId, toLex (right.2.kind.text,
          toLex (right.2.key, OrderDual.toDual right.2.version))))

/-- `memory.model_dump(mode="json")`, as `json.dumps(…, sort_keys=True)` writes it. -/
def retrievedJson (memory : RetrievedMemory) : Json :=
  Json.sortKeys (.obj [("memory_id", .str memory.memoryId), ("kind", .str memory.kind.text),
    ("key", .str memory.key), ("value", memory.value),
    ("source_run_id", textColumn memory.sourceRunId),
    ("source_thread_id", textColumn memory.sourceThreadId),
    ("confidence", .number memory.confidence), ("version", Json.nat memory.version),
    ("created_at", .str memory.createdAt), ("expires_at", textColumn memory.expiresAt)])

namespace Decode

/-- A memory kind. -/
def memoryKind : Json → Option MemoryKind
  | .str "preference" => some .preference
  | .str "fact" => some .fact
  | _ => none

/-- A number. -/
def number : Json → Option Rat
  | .number value => some value
  | .int value => some value
  | _ => none

/-- `RetrievedMemory.model_validate`, without the bounds that the write of the record was checked
against. -/
def retrieved (value : Json) : Option RetrievedMemory := do
  let fields ← object value
  some
    { memoryId := ← text (fields.getD "memory_id")
      kind := ← memoryKind (fields.getD "kind")
      key := ← text (fields.getD "key")
      value := ← fields.get? "value"
      sourceRunId := ← optionText (fields.getD "source_run_id")
      sourceThreadId := ← optionText (fields.getD "source_thread_id")
      confidence := ← number (fields.getD "confidence")
      version := ← nat (fields.getD "version")
      createdAt := ← text (fields.getD "created_at")
      expiresAt := ← optionText (fields.getD "expires_at") }

/-- The items of `memories_json`. -/
def memories : Json → Option (List RetrievedMemory)
  | .arr items => items.mapM retrieved
  | _ => none

end Decode

/-- `_row_to_snapshot` with the identity that is expected. A text that does not decode raises a
`ValidationError`. -/
def rowToSnapshot (runId : String) (row : MemorySnapshotRow) (scope : MemoryScope) :
    Except StoreError MemorySnapshot :=
  if row.tenantId ≠ scope.tenantId ∨ row.subjectId ≠ scope.subjectId ∨
      row.domainId ≠ scope.domainId then
    .error (.valueError "Persisted memory snapshot identity does not match run authority")
  else
    match Decode.memories row.memoriesJson with
    | none => .error (.valueError "validation error for RetrievedMemory")
    | some memories =>
      .ok
        { runId := runId
          tenantId := row.tenantId
          subjectId := row.subjectId
          domainId := row.domainId
          memories := memories
          createdAt := row.createdAt }

/-- The transaction of `_get_or_create_run_snapshot` after its checks. The first call returns the
snapshot it has built, the later ones decode the stored copy. -/
def sealSnapshot (db : Database) (reading : Reading) (runId : String) (scope : MemoryScope)
    (allowedKeys : Option (List String)) : Except StoreError (MemorySnapshot × Database) :=
  match db.memorySnapshots.find runId with
  | some existing =>
    match rowToSnapshot runId existing scope with
    | .error error => .error error
    | .ok snapshot => .ok (snapshot, db)
  | none =>
    let now := reading.utcNow 0
    let snapshot : MemorySnapshot :=
      { runId := runId
        tenantId := scope.tenantId
        subjectId := scope.subjectId
        domainId := scope.domainId
        memories := snapshotMemories db scope allowedKeys now
        createdAt := now }
    let row : MemorySnapshotRow :=
      { tenantId := snapshot.tenantId
        subjectId := snapshot.subjectId
        domainId := snapshot.domainId
        memoriesJson := .arr (snapshot.memories.map retrievedJson)
        createdAt := snapshot.createdAt }
    .ok (snapshot, { db with memorySnapshots := db.memorySnapshots.insert runId row })

/-- `get_or_create_run_snapshot`: the administrative variant. -/
def getOrCreateRunSnapshot (db : Database) (reading : Reading) (runId : String)
    (scope : MemoryScope) (allowedKeys : Option (List String)) :
    Except StoreError (MemorySnapshot × Database) :=
  if !scope.valid then
    .error (.valueError "Memory identity fields must contain 1 to 200 characters")
  else
    match assertRunIdentity db runId scope with
    | .error error => .error error
    | .ok () => sealSnapshot db reading runId scope allowedKeys

/-- `get_or_create_run_snapshot_for_run`. -/
def getOrCreateRunSnapshotForRun (db : Database) (reading : Reading) (leaseToken runId : String)
    (scope : MemoryScope) (allowedKeys : Option (List String)) :
    Except StoreError (MemorySnapshot × Database) :=
  if leaseToken.isEmpty then .error (.valueError "lease_token must not be empty")
  else if !scope.valid then
    .error (.valueError "Memory identity fields must contain 1 to 200 characters")
  else
    match assertRunIdentity db runId scope with
    | .error error => .error error
    | .ok () =>
      match assertMemoryLease db reading.nowMs runId leaseToken with
      | .error error => .error error
      | .ok () => sealSnapshot db reading runId scope allowedKeys

end AgentRuntime.Store
