import AgentRuntime.Store.MemoryVersions

/-!
# Sealed memory snapshots

The first call that asks for the memories of a Run builds them from the records and stores a JSON
copy; later calls decode the copy. `decode_retrievedJson` is the round trip: the copy sorts the keys
of every object, so it needs that stored values are sorted already (`ValuesSorted`). Nothing
rewrites a stored snapshot (`snapshot_kept`), whatever becomes of the records.
-/

set_option autoImplicit false
set_option relaxedAutoImplicit false

namespace AgentRuntime.Store

open Library

/-! ### The JSON copy -/

/-- The fields of the copy of a record, in the order of their keys. -/
def retrievedFields (memory : RetrievedMemory) : Payload :=
  [("confidence", .number memory.confidence), ("created_at", .str memory.createdAt),
    ("expires_at", textColumn memory.expiresAt), ("key", .str memory.key),
    ("kind", .str memory.kind.text), ("memory_id", .str memory.memoryId),
    ("source_run_id", textColumn memory.sourceRunId),
    ("source_thread_id", textColumn memory.sourceThreadId), ("value", memory.value.sortKeys),
    ("version", Json.nat memory.version)]

theorem retrievedJson_eq (memory : RetrievedMemory) :
    retrievedJson memory = .obj (retrievedFields memory) := by
  have htext (value : Option String) : (textColumn value).sortKeys = textColumn value := by
    cases value <;> rfl
  simp [retrievedJson, retrievedFields, Json.sortKeys, Json.sortKeysFields, Json.insertField, htext,
    Json.nat]

/-- A record whose value is sorted is decoded as it was. -/
theorem decode_retrievedJson {memory : RetrievedMemory}
    (hsorted : memory.value.sortKeys = memory.value) :
    Decode.retrieved (retrievedJson memory) = some memory := by
  have htext (value : Option String) : Decode.optionText (textColumn value) = some value := by
    cases value <;> rfl
  have hid : Decode.text ((retrievedFields memory).getD "memory_id") = some memory.memoryId := rfl
  have hkind : Decode.memoryKind ((retrievedFields memory).getD "kind") = some memory.kind := by
    change Decode.memoryKind (.str memory.kind.text) = some memory.kind
    cases memory.kind <;> rfl
  have hkey : Decode.text ((retrievedFields memory).getD "key") = some memory.key := rfl
  have hvalue : (retrievedFields memory).get? "value" = some memory.value :=
    congrArg some hsorted
  have hrun : Decode.optionText ((retrievedFields memory).getD "source_run_id") =
    some memory.sourceRunId := htext _
  have hthread : Decode.optionText ((retrievedFields memory).getD "source_thread_id") =
    some memory.sourceThreadId := htext _
  have hconfidence : Decode.number ((retrievedFields memory).getD "confidence") =
    some memory.confidence := rfl
  have hversion : Decode.nat ((retrievedFields memory).getD "version") = some memory.version := rfl
  have hcreated : Decode.text ((retrievedFields memory).getD "created_at") =
    some memory.createdAt := rfl
  have hexpires : Decode.optionText ((retrievedFields memory).getD "expires_at") =
    some memory.expiresAt := htext _
  rw [retrievedJson_eq]
  unfold Decode.retrieved
  rw [Decode.object, Option.bind_eq_bind, Option.bind_some, hid, hkind, hkey, hvalue, hrun, hthread,
    hconfidence, hversion, hcreated, hexpires]
  rfl

theorem decode_memories {memories : List RetrievedMemory}
    (hsorted : ∀ memory ∈ memories, memory.value.sortKeys = memory.value) :
    Decode.memories (.arr (memories.map retrievedJson)) = some memories := by
  change (memories.map retrievedJson).mapM Decode.retrieved = some memories
  induction memories with
  | nil => rfl
  | cons memory rest ih =>
    have hhead := decode_retrievedJson (hsorted memory List.mem_cons_self)
    have htail := ih fun other hmem ↦ hsorted other (List.mem_cons_of_mem _ hmem)
    rw [List.map_cons, List.mapM_cons, hhead, htail]
    rfl

/-- The values of all records are stored with their keys sorted. -/
def ValuesSorted (db : Database) : Prop :=
  ∀ entry ∈ db.memoryRecords.rows, entry.2.value.sortKeys = entry.2.value

theorem RowsChange.valuesSorted {db after : Database} {memory : MemoryKey}
    {change : String × MemoryRow → MemoryRow} {new : List (String × MemoryRow)}
    (hrows : RowsChange db after memory change new) (hsorted : ValuesSorted db) :
    ValuesSorted after := by
  intro entry hmem
  rw [hrows.rows, List.mem_append, List.mem_map] at hmem
  rcases hmem with ⟨old, hold, rfl⟩ | hmem
  · have hages := hrows.ages old hold
    generalize change old = later at hages ⊢
    cases hages with
    | kept | superseded => exact hsorted old hold
    | deleted => rfl
  · rcases hrows.added with rfl | ⟨memoryId, row, rfl, -, -, -, hvalue, -⟩
    · cases hmem
    · rw [List.mem_singleton.mp hmem]
      exact hvalue

/-- What the snapshots rely on in every reachable state. -/
theorem inOrder_and_sorted (hasher : Hasher) (history : List Request) :
    MemoryInOrder ((storeMachine hasher).run Database.empty history) ∧
      ValuesSorted ((storeMachine hasher).run Database.empty history) := by
  refine (storeMachine hasher).invariant_run (fun db ↦ MemoryInOrder db ∧ ValuesSorted db)
    (fun db request hstate _ ↦ ?_) ⟨memoryInOrder_empty, by simp [ValuesSorted, Database.empty,
      Table.empty]⟩ ((storeMachine hasher).admits_true Database.empty history)
  obtain ⟨memory, hchange, -⟩ := memoryChange_of_apply hasher hstate.1.oneActive request
  obtain ⟨change, new, hrows⟩ := hchange.rowsChange
  exact ⟨hchange.inOrder hstate.1, hrows.valuesSorted hstate.2⟩

/-! ### What is sealed -/

/-- The record is seen by a Run of this scope at this time, under an allow-list. -/
structure MemoryRow.Visible (row : MemoryRow) (scope : MemoryScope)
    (allowedKeys : Option (List String)) (now : String) : Prop where
  tenant : row.tenantId = scope.tenantId
  subject : row.subjectId = scope.subjectId
  domain : row.domainId = scope.domainId
  active : row.status = .active
  unexpired : ∀ expiresAt, row.expiresAt = some expiresAt → now < expiresAt
  allowed : ∀ keys, allowedKeys = some keys → row.key ∈ keys

/-- The order of a snapshot: by kind, then by key. -/
def RetrievedMemory.Before (left right : RetrievedMemory) : Prop :=
  toLex (left.kind.text, left.key) < toLex (right.kind.text, right.key)

theorem mem_snapshotMemories {db : Database} {scope : MemoryScope} {keys : Option (List String)}
    {now : String} {memory : RetrievedMemory} :
    memory ∈ snapshotMemories db scope keys now ↔
      ∃ entry ∈ db.memoryRecords.rows, entry.2.Visible scope keys now ∧
        memory = retrievedMemory entry := by
  unfold snapshotMemories
  simp only [List.mem_map, List.mem_insertionSort, List.mem_filter, Bool.and_eq_true, beq_iff_eq]
  constructor
  · rintro ⟨entry, ⟨hmem, ⟨⟨⟨⟨htenant, hsubject⟩, hdomain⟩, hactive⟩, hexpires⟩, hallowed⟩, rfl⟩
    refine ⟨entry, hmem, ⟨htenant, hsubject, hdomain, hactive, ?_, ?_⟩, rfl⟩
    · intro expiresAt heq
      rw [heq] at hexpires
      exact of_decide_eq_true hexpires
    · intro allowed heq
      rw [heq] at hallowed
      exact List.contains_iff_mem.mp hallowed
  · rintro ⟨entry, hmem, hvisible, rfl⟩
    refine ⟨entry, ⟨hmem, ⟨⟨⟨⟨hvisible.tenant, hvisible.subject⟩, hvisible.domain⟩,
      hvisible.active⟩, ?_⟩, ?_⟩, rfl⟩
    · cases hexpires : entry.2.expiresAt with
      | none => rfl
      | some expiresAt => exact decide_eq_true (hvisible.unexpired expiresAt hexpires)
    · cases hkeys : keys with
      | none => rfl
      | some allowed => exact List.contains_iff_mem.mpr (hvisible.allowed allowed hkeys)

/-- A snapshot is ordered by kind and key, and no key stands twice under a kind. -/
theorem ordered_snapshotMemories {db : Database} (hone : OneActiveVersion db)
    (scope : MemoryScope) (keys : Option (List String)) (now : String) :
    (snapshotMemories db scope keys now).Pairwise RetrievedMemory.Before := by
  unfold snapshotMemories
  simp only
  rw [List.pairwise_map]
  set visible := db.memoryRecords.rows.filter _ with hvisible
  have hmem (entry : String × MemoryRow) (hentry : entry ∈ visible) :
      entry ∈ db.memoryRecords.rows ∧ entry.2.tenantId = scope.tenantId ∧
        entry.2.subjectId = scope.subjectId ∧ entry.2.domainId = scope.domainId ∧
        entry.2.status = .active := by
    rw [hvisible] at hentry
    simp only [List.mem_filter, Bool.and_eq_true, beq_iff_eq] at hentry
    exact ⟨hentry.1, hentry.2.1.1.1.1.1, hentry.2.1.1.1.1.2, hentry.2.1.1.1.2, hentry.2.1.1.2⟩
  have hnodup : visible.Nodup := (List.Nodup.of_map _ db.memoryRecords.nodup).filter _
  let earlier (left right : String × MemoryRow) : Prop :=
    toLex (left.2.kind.text, toLex (left.2.key, left.2.version)) ≤
      toLex (right.2.kind.text, toLex (right.2.key, right.2.version))
  have hsorted : (visible.insertionSort earlier).Pairwise earlier :=
    List.pairwise_insertionSort earlier visible
  have hdistinct : (visible.insertionSort earlier).Nodup :=
    (List.perm_insertionSort earlier visible).nodup_iff.mpr hnodup
  refine (hsorted.and hdistinct).imp_of_mem fun {left right} hleft hright hboth ↦ ?_
  obtain ⟨hrow, htenant, hsubject, hdomain, hactive⟩ :=
    hmem left ((List.mem_insertionSort earlier).mp hleft)
  obtain ⟨hrow', htenant', hsubject', hdomain', hactive'⟩ :=
    hmem right ((List.mem_insertionSort earlier).mp hright)
  -- two ACTIVE records of one scope differ in kind or key
  have hkeys : ¬ (left.2.kind.text = right.2.kind.text ∧ left.2.key = right.2.key) := by
    rintro ⟨hkind, hkey⟩
    refine hboth.2 (hone left hrow right hrow' ?_ hactive hactive')
    simp only [MemoryRow.memoryKey, htenant, htenant', hsubject, hsubject', hdomain, hdomain',
      MemoryKind.text_injective hkind, hkey]
  have hle : left.2.kind.text < right.2.kind.text ∨ left.2.kind.text = right.2.kind.text ∧
      toLex (left.2.key, left.2.version) ≤ toLex (right.2.key, right.2.version) :=
    Prod.Lex.toLex_le_toLex.mp hboth.1
  change toLex (left.2.kind.text, left.2.key) < toLex (right.2.kind.text, right.2.key)
  rw [Prod.Lex.toLex_lt_toLex]
  rcases hle with hkind | ⟨hkind, hrest⟩
  · exact .inl hkind
  · rcases Prod.Lex.toLex_le_toLex.mp hrest with hkey | ⟨hkey, -⟩
    · exact .inr ⟨hkind, hkey⟩
    · exact (hkeys ⟨hkind, hkey⟩).elim

/-! ### The calls -/

/-- `_get_or_create_run_snapshot`: with a lease token for the fenced variant, without one for the
administrative. -/
def runSnapshot (db : Database) (reading : Reading) (leaseToken : Option String) (runId : String)
    (scope : MemoryScope) (allowedKeys : Option (List String)) :
    Except StoreError (MemorySnapshot × Database) :=
  match leaseToken with
  | none => getOrCreateRunSnapshot db reading runId scope allowedKeys
  | some token => getOrCreateRunSnapshotForRun db reading token runId scope allowedKeys

/-- The Run has this identity: its own tenant and domain, and the subject of its authority. -/
def RunIdentity (db : Database) (runId : String) (scope : MemoryScope) : Prop :=
  ∃ row authority, db.runs.find runId = some row ∧ row.executionAuthority = some authority ∧
    row.tenantId = scope.tenantId ∧ authority.subjectId = scope.subjectId ∧
    row.domainId = scope.domainId

theorem identity_of_assert {db : Database} {runId : String} {scope : MemoryScope}
    (hok : assertRunIdentity db runId scope = .ok ()) : RunIdentity db runId scope := by
  unfold assertRunIdentity at hok
  split at hok
  · cases hok
  · next row hfind =>
    split_ifs at hok with hscope
    split at hok
    · cases hok
    · next authority hauthority =>
      split_ifs at hok with hsubject
      rw [not_or, not_not, not_not] at hscope
      exact ⟨row, authority, hfind, hauthority, hscope.1, not_not.mp hsubject, hscope.2⟩

/-- A call that returns has the identity of the Run and goes through `sealSnapshot`. -/
theorem seal_of_runSnapshot {db after : Database} {reading : Reading} {token : Option String}
    {runId : String} {scope : MemoryScope} {keys : Option (List String)}
    {reply : MemorySnapshot}
    (hok : runSnapshot db reading token runId scope keys = .ok (reply, after)) :
    RunIdentity db runId scope ∧ sealSnapshot db reading runId scope keys = .ok (reply, after) := by
  unfold runSnapshot at hok
  split at hok
  · unfold getOrCreateRunSnapshot at hok
    split_ifs at hok
    split at hok
    · cases hok
    · next hidentity => exact ⟨identity_of_assert hidentity, hok⟩
  · unfold getOrCreateRunSnapshotForRun at hok
    split_ifs at hok
    split at hok
    · cases hok
    · next hidentity =>
      split at hok
      · cases hok
      · exact ⟨identity_of_assert hidentity, hok⟩

/-- Nothing rewrites a stored snapshot. -/
theorem snapshot_kept_of_seal {db after : Database} {reading : Reading} {other runId : String}
    {scope : MemoryScope} {keys : Option (List String)} {reply : MemorySnapshot}
    {row : MemorySnapshotRow}
    (hok : sealSnapshot db reading other scope keys = .ok (reply, after))
    (hfind : db.memorySnapshots.find runId = some row) :
    after.memorySnapshots.find runId = some row := by
  unfold sealSnapshot at hok
  split at hok
  · split at hok
    · cases hok
    · rw [eq_of_ok hok]
      exact hfind
  · next hnone =>
    have hne : runId ≠ other := by
      rintro rfl
      rw [hnone] at hfind
      cases hfind
    rw [eq_of_ok hok]
    refine (Table.find_insert_of_fresh _ _ _ _ hnone).trans ?_
    rw [if_neg hne]
    exact hfind

theorem snapshot_kept_of_upsertMemory {db after : Database} {reading : Reading}
    {scope : MemoryScope} {write : MemoryWrite} {runId threadId actor : String}
    {reply : MemoryMutationResult}
    (hok : upsertMemory db reading scope write runId threadId actor = .ok (reply, after)) :
    after.memorySnapshots = db.memorySnapshots := by
  unfold upsertMemory at hok
  simp only at hok
  split at hok
  · split_ifs at hok
    · rw [eq_of_ok hok]
    · rw [eq_of_ok hok]
      rfl
  · split_ifs at hok
    rw [eq_of_ok hok]
    rfl

theorem snapshot_kept (hasher : Hasher) {db : Database} {runId : String}
    {row : MemorySnapshotRow} (hfind : db.memorySnapshots.find runId = some row)
    (request : Request) : (request.apply hasher db).memorySnapshots.find runId = some row := by
  rcases memory_of_apply hasher db request with hsame | ⟨call, reply, -, hok⟩
  · rw [hsame.2.2, hfind]
  · cases call with
    | upsert =>
      simp only [MemoryCall.perform, Store.upsert] at hok
      split_ifs at hok
      rw [snapshot_kept_of_upsertMemory hok, hfind]
    | upsertFromRun =>
      simp only [MemoryCall.perform, Store.upsertFromRun] at hok
      split_ifs at hok
      split at hok
      · cases hok
      · split at hok
        · cases hok
        · rw [snapshot_kept_of_upsertMemory hok, hfind]
    | forgetMemory =>
      simp only [MemoryCall.perform, Store.forgetMemory] at hok
      split at hok
      · cases hok
      · split_ifs at hok <;> (rw [eq_of_ok hok]; exact hfind)
    | getOrCreateRunSnapshot other scope keys =>
      have hcall : runSnapshot db request.reading none other scope keys =
        .ok (reply, request.apply hasher db) := hok
      exact snapshot_kept_of_seal (seal_of_runSnapshot hcall).2 hfind
    | getOrCreateRunSnapshotForRun token other scope keys =>
      have hcall : runSnapshot db request.reading (some token) other scope keys =
        .ok (reply, request.apply hasher db) := hok
      exact snapshot_kept_of_seal (seal_of_runSnapshot hcall).2 hfind
    | listEventsForRun =>
      simp only [MemoryCall.perform] at hok
      rw [(reads_eq_ok hok).2, hfind]

/-- The stored copy of a snapshot. -/
def storedSnapshot (snapshot : MemorySnapshot) : MemorySnapshotRow where
  tenantId := snapshot.tenantId
  subjectId := snapshot.subjectId
  domainId := snapshot.domainId
  memoriesJson := .arr (snapshot.memories.map retrievedJson)
  createdAt := snapshot.createdAt

/-- A call that finds the stored copy of a snapshot returns it. -/
theorem reply_of_sealed {db after : Database} {reading : Reading} {runId : String}
    {scope : MemoryScope} {keys : Option (List String)} {reply snapshot : MemorySnapshot}
    (hfind : db.memorySnapshots.find runId = some (storedSnapshot snapshot))
    (hrun : snapshot.runId = runId)
    (hsorted : ∀ memory ∈ snapshot.memories, memory.value.sortKeys = memory.value)
    (hok : sealSnapshot db reading runId scope keys = .ok (reply, after)) :
    reply = snapshot ∧ after = db := by
  unfold sealSnapshot at hok
  rw [hfind] at hok
  simp only [rowToSnapshot, storedSnapshot, decode_memories hsorted] at hok
  split_ifs at hok
  simp only [Except.ok.injEq, Prod.mk.injEq] at hok
  obtain ⟨rfl, rfl⟩ := hok
  subst hrun
  exact ⟨rfl, rfl⟩

/-- The snapshot of a Run is what it could see when it was sealed. -/
structure SealedFrom (db : Database) (runId : String) (keys : Option (List String)) (now : String)
    (snapshot : MemorySnapshot) : Prop where
  ofRun : snapshot.runId = runId
  identity : RunIdentity db runId ⟨snapshot.tenantId, snapshot.subjectId, snapshot.domainId⟩
  createdAt : snapshot.createdAt = now
  memories : ∀ memory, memory ∈ snapshot.memories ↔
    ∃ entry ∈ db.memoryRecords.rows, entry.2.Visible ⟨snapshot.tenantId, snapshot.subjectId,
      snapshot.domainId⟩ keys now ∧ memory = retrievedMemory entry
  ordered : snapshot.memories.Pairwise RetrievedMemory.Before

/-- In every reachable state: the first call for a Run that returns seals what the Run sees then,
and every later call that returns gives back the same snapshot and changes nothing, whatever
allow-list it passes and whoever writes and forgets in between; and a call that does not have the
identity of the Run raises. -/
theorem sealed_snapshots_are_fixed (hasher : Hasher) (history : List Request) (runId : String) :
    let db := (storeMachine hasher).run Database.empty history
    (∀ reading token scope keys snapshot after,
      db.memorySnapshots.find runId = none →
      runSnapshot db reading token runId scope keys = .ok (snapshot, after) →
      SealedFrom db runId keys (reading.utcNow 0) snapshot ∧
      ∃ row, ∀ more, let later := (storeMachine hasher).run after more
        later.memorySnapshots.find runId = some row ∧
        ∀ reading token scope keys again last,
          runSnapshot later reading token runId scope keys = .ok (again, last) →
          again = snapshot ∧ last = later) ∧
    ∀ reading token scope keys, ¬ RunIdentity db runId scope →
      ∃ error, runSnapshot db reading token runId scope keys = .error error := by
  intro db
  obtain ⟨horder, hvalues⟩ := inOrder_and_sorted hasher history
  constructor
  · intro reading token scope keys snapshot after hunsealed hok
    obtain ⟨hidentity, hseal⟩ := seal_of_runSnapshot hok
    unfold sealSnapshot at hseal
    rw [hunsealed] at hseal
    simp only [Except.ok.injEq, Prod.mk.injEq] at hseal
    obtain ⟨hsnapshot, hafter⟩ := hseal
    have hsealed : SealedFrom db runId keys (reading.utcNow 0) snapshot := by
      subst hsnapshot
      exact ⟨rfl, hidentity, rfl, fun _ ↦ mem_snapshotMemories,
        ordered_snapshotMemories horder.oneActive scope keys _⟩
    have hstart : after.memorySnapshots.find runId = some (storedSnapshot snapshot) := by
      subst hsnapshot hafter
      exact (Table.find_insert_of_fresh _ _ _ _ hunsealed).trans (if_pos rfl)
    refine ⟨hsealed, storedSnapshot snapshot, fun more ↦ ?_⟩
    have hstored : ((storeMachine hasher).run after more).memorySnapshots.find runId =
        some (storedSnapshot snapshot) :=
      (storeMachine hasher).invariant_run
        (fun state ↦ state.memorySnapshots.find runId = some (storedSnapshot snapshot))
        (fun _ request hstate _ ↦ snapshot_kept hasher hstate request) hstart
        ((storeMachine hasher).admits_true after more)
    refine ⟨hstored, fun reading token scope' keys' again last hagain ↦ ?_⟩
    refine reply_of_sealed hstored hsealed.ofRun (fun memory hmem ↦ ?_)
      (seal_of_runSnapshot hagain).2
    obtain ⟨entry, hentry, -, rfl⟩ := (hsealed.memories memory).mp hmem
    exact hvalues entry hentry
  · intro reading token scope keys hother
    cases hcall : runSnapshot db reading token runId scope keys with
    | error error => exact ⟨error, rfl⟩
    | ok result => exact (hother (seal_of_runSnapshot hcall).1).elim

end AgentRuntime.Store
