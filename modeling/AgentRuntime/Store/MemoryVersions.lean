import Mathlib.Data.List.MinMax
import Mathlib.Order.Nat
import AgentRuntime.Store.LedgerFrame

/-!
# Versions of a memory

`MemoryChange` lists what a mutation of `SQLiteMemoryStore` can do to the records and the audit log,
and `RowsChange` is the part all of them share: old rows age in place and at most one new version is
appended. From it follow the numbering of the versions (`MemoryInOrder`), that rows only age
(`MemoryRow.Descends`), and that the audit log names every transition of the rows, in order
(`memoryTransitions`).
-/

set_option autoImplicit false
set_option relaxedAutoImplicit false

namespace AgentRuntime.Store

open Library

/-! ### Logical keys -/

/-- A logical key of governed memory. -/
structure MemoryKey where
  tenantId : String
  subjectId : String
  domainId : String
  kind : MemoryKind
  key : String
  deriving DecidableEq

theorem MemoryKind.text_injective : Function.Injective MemoryKind.text := by
  intro left right heq
  cases left <;> cases right <;> first | rfl | exact absurd heq (by decide)

def MemoryRow.memoryKey (row : MemoryRow) : MemoryKey :=
  ⟨row.tenantId, row.subjectId, row.domainId, row.kind, row.key⟩

def MemoryScope.memoryKey (scope : MemoryScope) (kind : MemoryKind) (key : String) : MemoryKey :=
  ⟨scope.tenantId, scope.subjectId, scope.domainId, kind, key⟩

theorem isVersionOf_iff (row : MemoryRow) (scope : MemoryScope) (kind : MemoryKind)
    (key : String) :
    row.isVersionOf scope kind key = true ↔ row.memoryKey = scope.memoryKey kind key := by
  simp only [MemoryRow.isVersionOf, MemoryRow.memoryKey, MemoryScope.memoryKey, Bool.and_eq_true,
    beq_iff_eq, MemoryKey.mk.injEq, and_assoc]

/-- The versions of a memory, in the order they were written. -/
def versionsOf (db : Database) (memory : MemoryKey) : List (String × MemoryRow) :=
  db.memoryRecords.rows.filter fun entry ↦ entry.2.memoryKey = memory

/-- `COALESCE(MAX(version), 0)` of a memory. -/
def latestVersion (db : Database) (memory : MemoryKey) : Nat :=
  ((versionsOf db memory).map fun entry ↦ entry.2.version).foldr max 0

theorem filter_isVersionOf (db : Database) (scope : MemoryScope) (kind : MemoryKind)
    (key : String) :
    (db.memoryRecords.rows.filter fun entry ↦ entry.2.isVersionOf scope kind key) =
      versionsOf db (scope.memoryKey kind key) := by
  refine List.filter_congr fun entry _ ↦ ?_
  rw [Bool.eq_iff_iff, isVersionOf_iff, decide_eq_true_iff]

theorem mem_versionsOf {db : Database} {memory : MemoryKey} {entry : String × MemoryRow} :
    entry ∈ versionsOf db memory ↔
      entry ∈ db.memoryRecords.rows ∧ entry.2.memoryKey = memory := by
  simp [versionsOf]

/-! ### What a mutation does -/

/-- What a mutation may do to one row: nothing, supersede it, or tombstone it. -/
inductive MemoryRow.Ages (row : MemoryRow) : MemoryRow → Prop
  | kept : row.Ages row
  | superseded (time : String) (hactive : row.status = .active) :
      row.Ages { row with status := .superseded, updatedAt := time }
  | deleted (time : String) (hpresent : row.status ≠ .deleted) :
      row.Ages { row with status := .deleted, value := .null, updatedAt := time }

theorem MemoryRow.Ages.memoryKey {row later : MemoryRow} (hages : row.Ages later) :
    later.memoryKey = row.memoryKey := by
  cases hages <;> rfl

theorem MemoryRow.Ages.version {row later : MemoryRow} (hages : row.Ages later) :
    later.version = row.version := by
  cases hages <;> rfl

theorem MemoryRow.Ages.active {row later : MemoryRow} (hages : row.Ages later)
    (hactive : later.status = .active) : later = row := by
  cases hages with
  | kept => rfl
  | superseded | deleted => cases hactive

/-- The row of a later state descends from this one: it has the columns it was written with, it
never turns back towards ACTIVE, and a tombstone stays as it is. -/
structure MemoryRow.Descends (row later : MemoryRow) : Prop where
  memory : later.memoryKey = row.memoryKey
  written : (later.version, later.createdAt, later.sourceRunId, later.sourceThreadId,
    later.confidence, later.expiresAt) = (row.version, row.createdAt, row.sourceRunId,
    row.sourceThreadId, row.confidence, row.expiresAt)
  value : later.status ≠ .deleted → later.value = row.value
  active : later.status = .active → later = row
  superseded : row.status = .superseded → later.status ≠ .active
  deleted : row.status = .deleted → later = row

theorem MemoryRow.Descends.refl (row : MemoryRow) : row.Descends row where
  memory := rfl
  written := rfl
  value _ := rfl
  active _ := rfl
  superseded hstatus := by rw [hstatus]; decide
  deleted _ := rfl

theorem MemoryRow.Descends.trans {row middle later : MemoryRow} (hfirst : row.Descends middle)
    (hsecond : middle.Descends later) : row.Descends later where
  memory := hsecond.memory.trans hfirst.memory
  written := hsecond.written.trans hfirst.written
  value hstatus := by
    have hmiddle : middle.status ≠ .deleted := by
      intro hgone
      rw [hsecond.deleted hgone] at hstatus
      exact hstatus hgone
    exact (hsecond.value hstatus).trans (hfirst.value hmiddle)
  active hstatus := by
    have hmiddle := hsecond.active hstatus
    exact hmiddle.trans (hfirst.active (hmiddle ▸ hstatus))
  superseded hstatus hactive := by
    have hmiddle := hsecond.active hactive
    exact hfirst.superseded hstatus (hmiddle ▸ hactive)
  deleted hstatus := by
    have hmiddle := hfirst.deleted hstatus
    subst hmiddle
    exact hsecond.deleted hstatus

theorem MemoryRow.Ages.descends {row later : MemoryRow} (hages : row.Ages later) :
    row.Descends later := by
  cases hages with
  | kept => exact .refl row
  | superseded time hactive =>
    refine ⟨rfl, rfl, fun _ ↦ rfl, fun hstatus ↦ ?_, fun _ hstatus ↦ ?_, fun hstatus ↦ ?_⟩
    · cases hstatus
    · cases hstatus
    · rw [hactive] at hstatus
      cases hstatus
  | deleted time hpresent =>
    refine ⟨rfl, rfl, fun hstatus ↦ (hstatus rfl).elim, fun hstatus ↦ ?_, fun _ hstatus ↦ ?_,
      fun hstatus ↦ (hpresent hstatus).elim⟩
    · cases hstatus
    · cases hstatus

/-- The event is of this type, about this record of this memory. -/
structure MemoryEventRow.Names (event : MemoryEventRow) (eventType memoryId : String)
    (memory : MemoryKey) : Prop where
  eventType : event.eventType = eventType
  memoryId : event.memoryId = some memoryId
  tenantId : event.tenantId = memory.tenantId
  subjectId : event.subjectId = memory.subjectId
  domainId : event.payload.getD "domain_id" = .str memory.domainId
  kind : event.payload.getD "kind" = .str memory.kind.text
  key : event.payload.getD "key" = .str memory.key

/-- The event of a new record. -/
def MemoryEventRow.Creates (event : MemoryEventRow) (entry : String × MemoryRow) : Prop :=
  event.Names "memory.created" entry.1 entry.2.memoryKey ∧
    event.payload.getD "version" = Json.nat entry.2.version

/-- The rows of a memory age in place, and at most one new version of it is appended. -/
structure RowsChange (db after : Database) (memory : MemoryKey)
    (change : String × MemoryRow → MemoryRow) (new : List (String × MemoryRow)) : Prop where
  rows : after.memoryRecords.rows =
    db.memoryRecords.rows.map (fun entry ↦ (entry.1, change entry)) ++ new
  ages : ∀ entry ∈ db.memoryRecords.rows, entry.2.Ages (change entry)
  others : ∀ entry ∈ db.memoryRecords.rows, entry.2.memoryKey ≠ memory → change entry = entry.2
  added : new = [] ∨ ∃ memoryId row, new = [(memoryId, row)] ∧ row.memoryKey = memory ∧
    row.status = .active ∧ row.version = latestVersion db memory + 1 ∧
    row.value.sortKeys = row.value ∧
    ∀ entry ∈ versionsOf db memory, (change entry).status ≠ .active

/-- The row after every present version of a memory was tombstoned. -/
def tombstoned (memory : MemoryKey) (time : String) (old : String × MemoryRow) : MemoryRow :=
  if old.2.memoryKey = memory ∧ old.2.status ≠ .deleted then
    { old.2 with status := .deleted, value := .null, updatedAt := time }
  else old.2

theorem tombstoned_status {memory : MemoryKey} {time : String} {old : String × MemoryRow}
    (hmemory : old.2.memoryKey = memory) : (tombstoned memory time old).status = .deleted := by
  unfold tombstoned
  split_ifs with hpresent
  · rfl
  · by_contra hstatus
    exact hpresent ⟨hmemory, hstatus⟩

theorem rowsChange_tombstoned {db after : Database} {memory : MemoryKey} {time : String}
    (hrows : after.memoryRecords.rows =
      db.memoryRecords.rows.map fun old ↦ (old.1, tombstoned memory time old)) :
    RowsChange db after memory (tombstoned memory time) [] where
  rows := by rw [hrows, List.append_nil]
  ages old _ := by
    unfold tombstoned
    split_ifs with hpresent
    · exact .deleted time hpresent.2
    · exact .kept
  others old _ hother := if_neg fun hpresent ↦ hother hpresent.1
  added := .inl rfl

/-- The mutations, each with the records and events it leaves. -/
inductive MemoryChange (db : Database) (memory : MemoryKey) (after : Database) : Prop
  | same (hrecords : after.memoryRecords = db.memoryRecords)
      (hevents : after.memoryEvents = db.memoryEvents)
  | created (entry : String × MemoryRow) (event : MemoryEventRow)
      (hrows : RowsChange db after memory Prod.snd [entry])
      (hevent : event.Creates entry) (hevents : after.memoryEvents = db.memoryEvents ++ [event])
  | superseded (activeId time : String) (row : MemoryRow) (entry : String × MemoryRow)
      (retired event : MemoryEventRow)
      (hfind : db.memoryRecords.find activeId = some row) (hmemory : row.memoryKey = memory)
      (hactive : row.status = .active)
      (hrows : RowsChange db after memory (fun old ↦
        if old.1 = activeId then { row with status := .superseded, updatedAt := time }
        else old.2) [entry])
      (hretired : retired.Names "memory.superseded" activeId memory)
      (hversion : retired.payload.getD "version" = Json.nat row.version)
      (hreplacement : retired.payload.getD "replacement_memory_id" = .str entry.1 ∧
        retired.payload.getD "replacement_version" = Json.nat entry.2.version)
      (hevent : event.Creates entry)
      (hevents : after.memoryEvents = db.memoryEvents ++ [retired, event])
  | deleted (memoryId time : String) (event : MemoryEventRow)
      (hrows : RowsChange db after memory (tombstoned memory time) [])
      (hsome : (versionsOf db memory).countP (fun old ↦ old.2.status ≠ .deleted) ≠ 0)
      (hevent : event.Names "memory.deleted" memoryId memory)
      (hcount : event.payload.getD "deleted_version_count" =
        Json.nat ((versionsOf db memory).countP fun old ↦ old.2.status ≠ .deleted))
      (hevents : after.memoryEvents = db.memoryEvents ++ [event])

/-- No memory has two ACTIVE versions. -/
def OneActiveVersion (db : Database) : Prop :=
  ∀ first ∈ db.memoryRecords.rows, ∀ second ∈ db.memoryRecords.rows,
    first.2.memoryKey = second.2.memoryKey → first.2.status = .active →
    second.2.status = .active → first = second

/-- The query for the active row of a memory. -/
theorem find_active {db : Database} {scope : MemoryScope} {kind : MemoryKind} {key : String}
    {entry : String × MemoryRow}
    (hactive : (db.memoryRecords.rows.find? fun entry ↦
      entry.2.isVersionOf scope kind key && entry.2.status == .active) = some entry) :
    entry ∈ db.memoryRecords.rows ∧ entry.2.memoryKey = scope.memoryKey kind key ∧
      entry.2.status = .active := by
  have hselected := List.find?_some hactive
  rw [Bool.and_eq_true, isVersionOf_iff, beq_iff_eq] at hselected
  exact ⟨List.mem_of_find?_eq_some hactive, hselected⟩

theorem no_active {db : Database} {scope : MemoryScope} {kind : MemoryKind} {key : String}
    (hactive : (db.memoryRecords.rows.find? fun entry ↦
      entry.2.isVersionOf scope kind key && entry.2.status == .active) = none) :
    ∀ entry ∈ versionsOf db (scope.memoryKey kind key), entry.2.status ≠ .active := by
  intro entry hmem hstatus
  obtain ⟨hrow, hmemory⟩ := mem_versionsOf.mp hmem
  have hmiss := List.find?_eq_none.mp hactive entry hrow
  exact hmiss (by rw [(isVersionOf_iff _ _ _ _).mpr hmemory, hstatus]; rfl)

/-- The record that an upsert writes. -/
def writtenRecord (db : Database) (reading : Reading) (scope : MemoryScope) (write : MemoryWrite)
    (sourceRunId sourceThreadId : String) : MemoryRow where
  tenantId := scope.tenantId
  subjectId := scope.subjectId
  domainId := scope.domainId
  kind := write.kind
  key := write.key
  value := write.value.sortKeys
  status := .active
  sourceRunId := some sourceRunId
  sourceThreadId := some sourceThreadId
  confidence := write.confidence
  version := latestVersion db (scope.memoryKey write.kind write.key) + 1
  createdAt := reading.utcNow 0
  updatedAt := reading.utcNow 0
  expiresAt := write.expiresAt

theorem memoryChange_of_upsertMemory {db after : Database} {reading : Reading}
    {scope : MemoryScope} {write : MemoryWrite} {runId threadId actor : String}
    {reply : MemoryMutationResult} (hone : OneActiveVersion db)
    (hok : upsertMemory db reading scope write runId threadId actor = .ok (reply, after)) :
    MemoryChange db (scope.memoryKey write.kind write.key) after := by
  let entry : String × MemoryRow :=
    ("mem_" ++ reading.uuid 0, writtenRecord db reading scope write runId threadId)
  unfold upsertMemory at hok
  simp only [filter_isVersionOf] at hok
  split at hok
  · next activeId row hactive =>
    obtain ⟨hmem, hmemory, hstatus⟩ := find_active hactive
    have hfind := (Table.mem_rows_iff _ _ _).mp hmem
    have hsingle (old : String × MemoryRow) (hold : old ∈ db.memoryRecords.rows)
        (hkey : old.1 = activeId) : old.2 = row := by
      have hrow := (Table.mem_rows_iff _ old.1 old.2).mp hold
      rw [hkey, hfind] at hrow
      exact (Option.some.inj hrow).symm
    split_ifs at hok with hsame hfresh hactor
    · rw [eq_of_ok hok]
      exact .same rfl rfl
    · rw [eq_of_ok hok]
      refine .superseded activeId (reading.utcNow 0) row entry _ _ hfind hmemory hstatus
        ⟨?_, ?_, ?_, ?_⟩ ⟨rfl, rfl, rfl, rfl, rfl, rfl, rfl⟩ rfl ⟨rfl, rfl⟩
        ⟨⟨rfl, rfl, rfl, rfl, rfl, rfl, rfl⟩, rfl⟩ (List.append_assoc _ _ _)
      · refine (Table.rows_insert_of_fresh _ _ _ ?_).trans (congrArg (· ++ [entry]) ?_)
        · rw [Table.find_modify, Option.not_isSome_iff_eq_none.mp hfresh]
          simp
        · refine List.map_congr_left fun old _ ↦ ?_
          by_cases hkey : old.1 = activeId <;> simp [hkey]
      · intro old hold
        by_cases hkey : old.1 = activeId
        · simp only [hkey, if_true, hsingle old hold hkey]
          exact .superseded _ hstatus
        · simp only [hkey, if_false]
          exact .kept
      · intro old hold hother
        by_cases hkey : old.1 = activeId
        · rw [hsingle old hold hkey] at hother
          exact (hother hmemory).elim
        · simp only [hkey, if_false]
      · refine .inr ⟨_, _, rfl, rfl, rfl, rfl, Json.sortKeys_sortKeys _, fun old hold ↦ ?_⟩
        obtain ⟨hrow, hversion⟩ := mem_versionsOf.mp hold
        by_cases hkey : old.1 = activeId
        · simp [hkey]
        · simp only [hkey, if_false]
          intro hstill
          have heq := hone old hrow _ hmem (hversion.trans hmemory.symm) hstill hstatus
          exact hkey (congrArg Prod.fst heq)
  · next hactive =>
    split_ifs at hok with hfresh hactor
    rw [eq_of_ok hok]
    refine .created entry _ ⟨?_, ?_, ?_, ?_⟩ ⟨⟨rfl, rfl, rfl, rfl, rfl, rfl, rfl⟩, rfl⟩ rfl
    · refine (Table.rows_insert_of_fresh _ _ _ (Option.not_isSome_iff_eq_none.mp hfresh)).trans ?_
      rw [List.map_id'']
      · rfl
      · exact fun _ ↦ rfl
    · exact fun _ _ ↦ .kept
    · exact fun _ _ _ ↦ rfl
    · exact .inr ⟨_, _, rfl, rfl, rfl, rfl, Json.sortKeys_sortKeys _, no_active hactive⟩

theorem memoryChange_of_forgetMemory {db after : Database} {reading : Reading}
    {memoryId tenantId subjectId actor : String} {reply : String × MemoryRow}
    (hok : forgetMemory db reading memoryId tenantId subjectId actor = .ok (reply, after)) :
    ∃ target, db.memoryRecords.find memoryId = some target ∧
      MemoryChange db target.memoryKey after ∧
      ∀ entry ∈ versionsOf after target.memoryKey, entry.2.status = .deleted := by
  unfold forgetMemory at hok
  split at hok
  · cases hok
  · next target htarget =>
    obtain ⟨hfind, hscope⟩ := Option.filter_eq_some_iff.mp htarget
    simp only [Bool.and_eq_true, beq_iff_eq] at hscope
    obtain ⟨htenant, hsubject⟩ := hscope
    have hmemory : MemoryScope.memoryKey ⟨tenantId, subjectId, target.domainId⟩ target.kind
        target.key = target.memoryKey := by
      simp only [MemoryScope.memoryKey, MemoryRow.memoryKey, htenant, hsubject]
    -- the rows that are tombstoned
    have hselect (entry : String × MemoryRow) :
        (entry.2.isVersionOf ⟨tenantId, subjectId, target.domainId⟩ target.kind target.key &&
          entry.2.status != .deleted) = true ↔
        entry.2.memoryKey = target.memoryKey ∧ entry.2.status ≠ .deleted := by
      rw [Bool.and_eq_true, isVersionOf_iff, hmemory, bne_iff_ne]
    have haffected : (db.memoryRecords.rows.filter fun entry ↦
        entry.2.isVersionOf ⟨tenantId, subjectId, target.domainId⟩ target.kind target.key &&
          entry.2.status != .deleted) =
        (versionsOf db target.memoryKey).filter fun old ↦ old.2.status ≠ .deleted := by
      unfold versionsOf
      rw [List.filter_filter]
      refine List.filter_congr fun entry _ ↦ ?_
      rw [Bool.eq_iff_iff, hselect, Bool.and_eq_true, decide_eq_true_iff, decide_eq_true_iff,
        and_comm]
    refine ⟨target, hfind, ?_⟩
    simp only at hok
    split_ifs at hok with hempty hactor
    · rw [eq_of_ok hok]
      refine ⟨.same rfl rfl, fun entry hmem ↦ ?_⟩
      rw [haffected, List.isEmpty_iff, List.filter_eq_nil_iff] at hempty
      by_contra hpresent
      exact hempty entry hmem (decide_eq_true hpresent)
    · have hrows := Table.rows_foldl_modify_filter db.memoryRecords
        (fun entry ↦ entry.2.isVersionOf ⟨tenantId, subjectId, target.domainId⟩ target.kind
          target.key && entry.2.status != .deleted)
        (fun row ↦ { row with
          status := .deleted, value := .null, updatedAt := reading.utcNow 0 })
      have hchange : RowsChange db after target.memoryKey
          (tombstoned target.memoryKey (reading.utcNow 0)) [] := by
        refine rowsChange_tombstoned ?_
        rw [eq_of_ok hok]
        refine hrows.trans (List.map_congr_left fun entry _ ↦ ?_)
        simp only [hselect, tombstoned]
        split_ifs <;> rfl
      have hcount : ((versionsOf db target.memoryKey).filter fun old ↦
          decide (old.2.status ≠ .deleted)).length =
          (versionsOf db target.memoryKey).countP fun old ↦ old.2.status ≠ .deleted :=
        List.countP_eq_length_filter.symm
      have hevents := congrArg Database.memoryEvents (eq_of_ok hok)
      refine ⟨.deleted memoryId (reading.utcNow 0) _ hchange ?_ ⟨?_, ?_, ?_, ?_, ?_, ?_, ?_⟩ ?_
        hevents, ?_⟩
      rotate_right
      · intro entry hmem
        obtain ⟨hrow, hkey⟩ := mem_versionsOf.mp hmem
        rw [hchange.rows, List.append_nil, List.mem_map] at hrow
        obtain ⟨old, hold, rfl⟩ := hrow
        exact tombstoned_status (hchange.ages old hold |>.memoryKey ▸ hkey)
      · rw [← hcount, ← haffected]
        simpa using hempty
      · rfl
      · rfl
      · exact htenant.symm
      · exact hsubject.symm
      · rfl
      · rfl
      · rfl
      · rw [← hcount, ← haffected]
        rfl

/-- The memory that a call is about. -/
def MemoryCall.memoryKey (db : Database) : MemoryCall → Option MemoryKey
  | upsert scope write .. => some (scope.memoryKey write.kind write.key)
  | upsertFromRun _ scope write .. => some (scope.memoryKey write.kind write.key)
  | forgetMemory memoryId .. => (db.memoryRecords.find memoryId).map MemoryRow.memoryKey
  | getOrCreateRunSnapshot .. | getOrCreateRunSnapshotForRun .. | listEventsForRun .. => none

/-- The memory that a request is about. -/
def Request.memoryKey (db : Database) (request : Request) : Option MemoryKey :=
  match request.call with
  | .memory call => call.memoryKey db
  | _ => none

/-- The records and the audit log are left as they were. -/
def SameRecords (db after : Database) : Prop :=
  after.memoryRecords = db.memoryRecords ∧ after.memoryEvents = db.memoryEvents

theorem sameRecords_of_sealSnapshot {db after : Database} {reading : Reading} {runId : String}
    {scope : MemoryScope} {keys : Option (List String)} {reply : MemorySnapshot}
    (hok : sealSnapshot db reading runId scope keys = .ok (reply, after)) :
    SameRecords db after := by
  unfold sealSnapshot at hok
  split at hok
  · split at hok
    · cases hok
    · rw [eq_of_ok hok]
      exact ⟨rfl, rfl⟩
  · rw [eq_of_ok hok]
    exact ⟨rfl, rfl⟩

theorem memoryChange_of_perform {db after : Database} {reading : Reading} {call : MemoryCall}
    {reply : call.Reply} (hone : OneActiveVersion db)
    (hok : call.perform db reading = .ok (reply, after)) :
    SameRecords db after ∨
      ∃ memory, call.memoryKey db = some memory ∧ MemoryChange db memory after := by
  cases call with
  | upsert =>
    simp only [MemoryCall.perform, Store.upsert] at hok
    split_ifs at hok
    exact .inr ⟨_, rfl, memoryChange_of_upsertMemory hone hok⟩
  | upsertFromRun =>
    simp only [MemoryCall.perform, Store.upsertFromRun] at hok
    split_ifs at hok
    split at hok
    · cases hok
    · split at hok
      · cases hok
      · exact .inr ⟨_, rfl, memoryChange_of_upsertMemory hone hok⟩
  | forgetMemory =>
    obtain ⟨target, hfind, hchange, -⟩ := memoryChange_of_forgetMemory hok
    refine .inr ⟨target.memoryKey, ?_, hchange⟩
    rw [MemoryCall.memoryKey, hfind, Option.map_some]
  | getOrCreateRunSnapshot =>
    simp only [MemoryCall.perform, Store.getOrCreateRunSnapshot] at hok
    split_ifs at hok
    split at hok
    · cases hok
    · exact .inl (sameRecords_of_sealSnapshot hok)
  | getOrCreateRunSnapshotForRun =>
    simp only [MemoryCall.perform, Store.getOrCreateRunSnapshotForRun] at hok
    split_ifs at hok
    split at hok
    · cases hok
    · split at hok
      · cases hok
      · exact .inl (sameRecords_of_sealSnapshot hok)
  | listEventsForRun =>
    simp only [MemoryCall.perform] at hok
    rw [(reads_eq_ok hok).2]
    exact .inl ⟨rfl, rfl⟩

/-- A request is a mutation of its memory, or it leaves the records and the audit log alone. -/
theorem memoryChange_of_apply (hasher : Hasher) {db : Database} (hone : OneActiveVersion db)
    (request : Request) :
    ∃ memory, MemoryChange db memory (request.apply hasher db) ∧
      (request.memoryKey db = some memory ∨ SameRecords db (request.apply hasher db)) := by
  have hnothing (hsame : SameRecords db (request.apply hasher db)) :
      ∃ memory, MemoryChange db memory (request.apply hasher db) ∧
        (request.memoryKey db = some memory ∨ SameRecords db (request.apply hasher db)) :=
    -- no memory changes, so any key will do
    ⟨⟨"", "", "", .fact, ""⟩, .same hsame.1 hsame.2, .inr hsame⟩
  rcases memory_of_apply hasher db request with hsame | ⟨call, reply, hcall, hok⟩
  · exact hnothing ⟨hsame.1, hsame.2.1⟩
  · rcases memoryChange_of_perform hone hok with hsame | ⟨memory, hmemory, hchange⟩
    · exact hnothing hsame
    · refine ⟨memory, hchange, .inl ?_⟩
      rw [Request.memoryKey, hcall]
      exact hmemory

/-! ### The invariant -/

/-- The versions of every memory are numbered from one in the order they were written, only the
newest may be ACTIVE, a tombstone holds no value, and every record has its event. -/
structure MemoryInOrder (db : Database) : Prop where
  versions : ∀ memory, ((versionsOf db memory).map fun entry ↦ entry.2.version) =
    List.range' 1 (versionsOf db memory).length
  active : ∀ memory, ∀ entry ∈ versionsOf db memory, entry.2.status = .active →
    entry.2.version = (versionsOf db memory).length
  deleted : ∀ entry ∈ db.memoryRecords.rows, entry.2.status = .deleted → entry.2.value = .null
  created : List.Forall₂ MemoryEventRow.Creates
    (db.memoryEvents.filter fun event ↦ event.eventType == "memory.created")
    db.memoryRecords.rows

theorem memoryInOrder_empty : MemoryInOrder Database.empty where
  versions _ := rfl
  active _ _ hmem := by cases hmem
  deleted _ hmem := by cases hmem
  created := .nil

theorem MemoryInOrder.oneActive {db : Database} (horder : MemoryInOrder db) :
    OneActiveVersion db := by
  intro first hfirst second hsecond hmemory hactive hactive'
  have hmem : first ∈ versionsOf db second.2.memoryKey := mem_versionsOf.mpr ⟨hfirst, hmemory⟩
  have hmem' : second ∈ versionsOf db second.2.memoryKey := mem_versionsOf.mpr ⟨hsecond, rfl⟩
  have hversion := (horder.active _ first hmem hactive).trans
    (horder.active _ second hmem' hactive').symm
  have hnodup : ((versionsOf db second.2.memoryKey).map fun entry ↦ entry.2.version).Nodup := by
    rw [horder.versions]
    exact List.nodup_range'
  exact List.inj_on_of_nodup_map hnodup hmem hmem' hversion

theorem MemoryInOrder.latestVersion {db : Database} (horder : MemoryInOrder db)
    (memory : MemoryKey) : Store.latestVersion db memory = (versionsOf db memory).length := by
  unfold Store.latestVersion
  rw [horder.versions]
  apply le_antisymm
  · refine List.max_le_of_forall_le (List.range' 1 (versionsOf db memory).length) _
      fun version hmem ↦ ?_
    have hbound := (List.mem_range'_1.mp hmem).2
    omega
  · rcases Nat.eq_zero_or_pos (versionsOf db memory).length with hzero | hpos
    · rw [hzero]
      exact Nat.zero_le _
    · refine List.le_max_of_le (List.mem_range'_1.mpr ⟨hpos, ?_⟩) le_rfl
      omega

/-- The events of the old records are those of the rows they aged to. -/
theorem creates_aged {events : List MemoryEventRow} {rows : List (String × MemoryRow)}
    {change : String × MemoryRow → MemoryRow}
    (hcreated : List.Forall₂ MemoryEventRow.Creates events rows)
    (hages : ∀ entry ∈ rows, entry.2.Ages (change entry)) :
    List.Forall₂ MemoryEventRow.Creates events
      (rows.map fun entry ↦ (entry.1, change entry)) := by
  induction hcreated with
  | nil => exact .nil
  | @cons event entry _ _ hevent _ ih =>
    have haged := hages entry List.mem_cons_self
    refine .cons ?_ (ih fun other hmem ↦ hages other (List.mem_cons_of_mem _ hmem))
    rw [MemoryEventRow.Creates, haged.memoryKey, haged.version]
    exact hevent

section Change

variable {db after : Database} {memory : MemoryKey} {change : String × MemoryRow → MemoryRow}
  {new : List (String × MemoryRow)} (hrows : RowsChange db after memory change new)

include hrows

/-- The versions of a memory age in place, followed by the new ones that are of it. -/
theorem RowsChange.versionsOf_eq (other : MemoryKey) :
    versionsOf after other =
      (versionsOf db other).map (fun entry ↦ (entry.1, change entry)) ++
        new.filter fun entry ↦ entry.2.memoryKey = other := by
  unfold versionsOf
  rw [hrows.rows, List.filter_append, List.filter_map]
  congr 2
  refine List.filter_congr fun entry hmem ↦ ?_
  rw [Function.comp_apply, (hrows.ages entry hmem).memoryKey]

/-- The versions of another memory stay as they are. -/
theorem RowsChange.versionsOf_other {other : MemoryKey} (hother : other ≠ memory) :
    versionsOf after other = versionsOf db other := by
  have hnew : (new.filter fun entry ↦ decide (entry.2.memoryKey = other)) = [] := by
    rcases hrows.added with rfl | ⟨memoryId, row, rfl, hmemory, -⟩
    · rfl
    · have hmiss : row.memoryKey ≠ other := fun heq ↦ hother (heq.symm.trans hmemory)
      simp [hmiss]
  rw [hrows.versionsOf_eq, hnew, List.append_nil]
  refine (List.map_congr_left fun entry hmem ↦ ?_).trans (List.map_id _)
  obtain ⟨hrow, hkey⟩ := mem_versionsOf.mp hmem
  rw [hrows.others entry hrow (fun heq ↦ hother (hkey.symm.trans heq))]
  rfl

theorem RowsChange.versionsOf_self :
    versionsOf after memory =
      (versionsOf db memory).map (fun entry ↦ (entry.1, change entry)) ++ new := by
  rw [hrows.versionsOf_eq]
  congr 1
  rcases hrows.added with rfl | ⟨memoryId, row, rfl, hmemory, -⟩
  · rfl
  · simp [hmemory]

/-- An old row is found as it aged. -/
theorem RowsChange.find {memoryId : String} {row : MemoryRow}
    (hfind : db.memoryRecords.find memoryId = some row) :
    after.memoryRecords.find memoryId = some (change (memoryId, row)) := by
  have hmem := (Table.mem_rows_iff _ _ _).mpr hfind
  rw [← Table.mem_rows_iff, hrows.rows]
  exact List.mem_append_left _ (List.mem_map.mpr ⟨(memoryId, row), hmem, rfl⟩)

theorem RowsChange.inOrder_versions (horder : MemoryInOrder db) (other : MemoryKey) :
    ((versionsOf after other).map fun entry ↦ entry.2.version) =
        List.range' 1 (versionsOf after other).length ∧
      ∀ entry ∈ versionsOf after other, entry.2.status = .active →
        entry.2.version = (versionsOf after other).length := by
  by_cases hother : other = memory
  · subst hother
    have hold : (((versionsOf db other).map fun entry ↦ (entry.1, change entry)).map
        fun entry ↦ entry.2.version) = List.range' 1 (versionsOf db other).length := by
      rw [← horder.versions other, List.map_map]
      refine List.map_congr_left fun entry hmem ↦ ?_
      exact (hrows.ages entry (mem_versionsOf.mp hmem).1).version
    rw [hrows.versionsOf_self, List.map_append, hold, List.length_append, List.length_map]
    rcases hrows.added with rfl | ⟨memoryId, row, rfl, -, -, hversion, -, hquiet⟩
    · refine ⟨by simp, fun entry hmem hactive ↦ ?_⟩
      rw [List.append_nil, List.mem_map] at hmem
      obtain ⟨old, hmem, rfl⟩ := hmem
      have hsame := (hrows.ages old (mem_versionsOf.mp hmem).1).active hactive
      change (change old).version = _
      rw [hsame]
      exact horder.active other old hmem (hsame ▸ hactive)
    · rw [horder.latestVersion] at hversion
      refine ⟨?_, fun entry hmem hactive ↦ ?_⟩
      · rw [List.length_singleton, List.range'_concat, List.map_singleton, hversion]
        congr 2
        omega
      · rcases List.mem_append.mp hmem with hmem | hmem
        · obtain ⟨old, hversions, rfl⟩ := List.mem_map.mp hmem
          exact (hquiet old hversions hactive).elim
        · rw [List.mem_singleton.mp hmem, List.length_singleton]
          exact hversion
  · rw [hrows.versionsOf_other hother]
    exact ⟨horder.versions other, horder.active other⟩

theorem RowsChange.inOrder_deleted (horder : MemoryInOrder db) :
    ∀ entry ∈ after.memoryRecords.rows, entry.2.status = .deleted → entry.2.value = .null := by
  intro entry hmem hstatus
  rw [hrows.rows, List.mem_append, List.mem_map] at hmem
  rcases hmem with ⟨old, hmem, rfl⟩ | hmem
  · have hages := hrows.ages old hmem
    generalize change old = later at hages hstatus
    cases hages with
    | kept => exact horder.deleted old hmem hstatus
    | superseded => cases hstatus
    | deleted => rfl
  · rcases hrows.added with rfl | ⟨memoryId, row, rfl, -, hactive, -⟩
    · cases hmem
    · rw [List.mem_singleton.mp hmem] at hstatus
      rw [hactive] at hstatus
      cases hstatus

end Change

/-- A mutation keeps the order. -/
theorem MemoryChange.inOrder {db after : Database} {memory : MemoryKey}
    (hchange : MemoryChange db memory after) (horder : MemoryInOrder db) :
    MemoryInOrder after := by
  cases hchange with
  | same hrecords hevents =>
    have hversions (other : MemoryKey) : versionsOf after other = versionsOf db other := by
      unfold versionsOf
      rw [hrecords]
    refine ⟨fun other ↦ ?_, fun other ↦ ?_, ?_, ?_⟩
    · rw [hversions]
      exact horder.versions other
    · rw [hversions]
      exact horder.active other
    · rw [hrecords]
      exact horder.deleted
    · rw [hrecords, hevents]
      exact horder.created
  | created entry event hrows hevent hevents =>
    refine ⟨fun other ↦ (hrows.inOrder_versions horder other).1,
      fun other ↦ (hrows.inOrder_versions horder other).2, hrows.inOrder_deleted horder, ?_⟩
    have htype : (event.eventType == "memory.created") = true := beq_iff_eq.mpr hevent.1.eventType
    rw [hevents, hrows.rows, List.filter_append, List.filter_cons, if_pos htype]
    exact List.rel_append (creates_aged horder.created hrows.ages) (.cons hevent .nil)
  | superseded _ _ _ entry retired event _ _ _ hrows hretired _ _ hevent hevents =>
    refine ⟨fun other ↦ (hrows.inOrder_versions horder other).1,
      fun other ↦ (hrows.inOrder_versions horder other).2, hrows.inOrder_deleted horder, ?_⟩
    have htype : (event.eventType == "memory.created") = true := beq_iff_eq.mpr hevent.1.eventType
    have hother : (retired.eventType == "memory.created") = false := by
      rw [hretired.eventType]
      rfl
    rw [hevents, hrows.rows, List.filter_append, List.filter_cons, hother, List.filter_cons,
      if_pos htype]
    exact List.rel_append (creates_aged horder.created hrows.ages) (.cons hevent .nil)
  | deleted _ _ event hrows _ hevent _ hevents =>
    refine ⟨fun other ↦ (hrows.inOrder_versions horder other).1,
      fun other ↦ (hrows.inOrder_versions horder other).2, hrows.inOrder_deleted horder, ?_⟩
    have hother : (event.eventType == "memory.created") = false := by
      rw [hevent.eventType]
      rfl
    rw [hevents, hrows.rows, List.filter_append, List.filter_cons, hother, List.append_nil]
    simpa using creates_aged horder.created hrows.ages

/-! ### The audit log -/

/-- A transition of the rows that the audit log records. -/
inductive MemoryTransition where
  | superseded (memoryId : String) (replacement : Nat)
  | forgotten (count : Nat)
  deriving DecidableEq

/-- The transition that an event reports. -/
def MemoryEventRow.transition (event : MemoryEventRow) : Option MemoryTransition :=
  if event.eventType = "memory.superseded" then
    match event.memoryId, Decode.nat (event.payload.getD "replacement_version") with
    | some memoryId, some replacement => some (.superseded memoryId replacement)
    | _, _ => none
  else if event.eventType = "memory.deleted" then
    (Decode.nat (event.payload.getD "deleted_version_count")).map .forgotten
  else none

/-- The version of the ACTIVE row of a memory. -/
def activeVersion (db : Database) (memory : MemoryKey) : Option Nat :=
  ((versionsOf db memory).find? fun entry ↦ entry.2.status = .active).map
    fun entry ↦ entry.2.version

/-- The rows that went from ACTIVE to SUPERSEDED, each with the version that is ACTIVE now. -/
def supersededRows (db after : Database) : List MemoryTransition :=
  db.memoryRecords.rows.filterMap fun entry ↦
    match after.memoryRecords.find entry.1 with
    | some later =>
      if entry.2.status = .active ∧ later.status = .superseded then
        (activeVersion after entry.2.memoryKey).map (.superseded entry.1)
      else none
    | none => none

/-- How many rows became tombstones. -/
def forgottenRows (db after : Database) : Nat :=
  db.memoryRecords.rows.countP fun entry ↦
    entry.2.status ≠ .deleted ∧
      (after.memoryRecords.find entry.1).map MemoryRow.status = some .deleted

/-- The transitions between two states of the records. -/
def memoryTransitions (db after : Database) : List MemoryTransition :=
  supersededRows db after ++
    if forgottenRows db after = 0 then [] else [.forgotten (forgottenRows db after)]

section Change

variable {db after : Database} {memory : MemoryKey} {change : String × MemoryRow → MemoryRow}
  {new : List (String × MemoryRow)} (hrows : RowsChange db after memory change new)

include hrows

theorem RowsChange.supersededRows_eq :
    supersededRows db after = db.memoryRecords.rows.filterMap fun entry ↦
      if entry.2.status = .active ∧ (change entry).status = .superseded then
        (activeVersion after entry.2.memoryKey).map (.superseded entry.1)
      else none := by
  refine List.filterMap_congr fun entry hmem ↦ ?_
  rw [hrows.find ((Table.mem_rows_iff _ _ _).mp hmem)]

theorem RowsChange.forgottenRows_eq :
    forgottenRows db after = db.memoryRecords.rows.countP fun entry ↦
      entry.2.status ≠ .deleted ∧ (change entry).status = .deleted := by
  refine List.countP_congr fun entry hmem ↦ ?_
  rw [hrows.find ((Table.mem_rows_iff _ _ _).mp hmem), Option.map_some]
  simp

end Change

/-- Rows that are all kept make no transition. -/
theorem RowsChange.transitions_kept {db after : Database} {memory : MemoryKey}
    {new : List (String × MemoryRow)} (hrows : RowsChange db after memory Prod.snd new) :
    memoryTransitions db after = [] := by
  have hsuperseded : supersededRows db after = [] := by
    rw [hrows.supersededRows_eq, List.filterMap_eq_nil_iff]
    intro entry _
    refine if_neg ?_
    rintro ⟨hactive, hstatus⟩
    rw [hactive] at hstatus
    cases hstatus
  have hforgotten : forgottenRows db after = 0 := by
    rw [hrows.forgottenRows_eq, List.countP_eq_zero]
    simp
  rw [memoryTransitions, hsuperseded, hforgotten]
  rfl

/-- After an upsert the new version is the ACTIVE one. -/
theorem RowsChange.activeVersion {db after : Database} {memory : MemoryKey}
    {change : String × MemoryRow → MemoryRow} {entry : String × MemoryRow}
    (hrows : RowsChange db after memory change [entry]) :
    activeVersion after memory = some entry.2.version := by
  rcases hrows.added with hnone | ⟨memoryId, row, hentry, -, hactive, -, -, hquiet⟩
  · cases hnone
  · obtain rfl := List.singleton_inj.mp hentry
    have hold : (((versionsOf db memory).map fun old ↦ (old.1, change old)).find?
        fun old ↦ decide (old.2.status = .active)) = none := by
      refine List.find?_eq_none.mpr fun old hmem ↦ ?_
      obtain ⟨first, hfirst, rfl⟩ := List.mem_map.mp hmem
      simpa using hquiet first hfirst
    unfold Store.activeVersion
    rw [hrows.versionsOf_self, List.find?_append, hold]
    simp [hactive]

/-- The ACTIVE row was superseded and no other. -/
theorem RowsChange.transitions_superseded {db after : Database} {memory : MemoryKey}
    {activeId time : String} {row : MemoryRow} {entry : String × MemoryRow}
    (hfind : db.memoryRecords.find activeId = some row) (hmemory : row.memoryKey = memory)
    (hactive : row.status = .active)
    (hrows : RowsChange db after memory (fun old ↦
      if old.1 = activeId then { row with status := .superseded, updatedAt := time }
      else old.2) [entry]) :
    memoryTransitions db after = [.superseded activeId entry.2.version] := by
  have hsuperseded : supersededRows db after = [.superseded activeId entry.2.version] := by
    have hscan : supersededRows db after =
        (db.memoryRecords.rows.filter fun old ↦ decide (old.1 = activeId)).filterMap fun old ↦
          (Store.activeVersion after old.2.memoryKey).map (.superseded old.1) := by
      rw [hrows.supersededRows_eq, List.filterMap_filter]
      refine List.filterMap_congr fun old hmem ↦ ?_
      by_cases hkey : old.1 = activeId
      · have hrow := (Table.mem_rows_iff _ old.1 old.2).mp hmem
        rw [hkey, hfind] at hrow
        simp [hkey, ← Option.some.inj hrow, hactive]
      · have hkept : ¬ (old.2.status = .active ∧ old.2.status = .superseded) := by
          rintro ⟨hfirst, hsecond⟩
          rw [hfirst] at hsecond
          cases hsecond
        simp only [hkey, if_false, decide_false, Bool.false_eq_true]
        exact if_neg hkept
    rw [hscan, Table.filter_rows_key _ hfind]
    simp [hmemory, hrows.activeVersion]
  have hforgotten : forgottenRows db after = 0 := by
    rw [hrows.forgottenRows_eq, List.countP_eq_zero]
    intro old _
    by_cases hkey : old.1 = activeId <;> simp [hkey]
  rw [memoryTransitions, hsuperseded, hforgotten]
  rfl

/-- Every present version of the memory became a tombstone and no other row. -/
theorem RowsChange.transitions_tombstoned {db after : Database} {memory : MemoryKey}
    {time : String} (hrows : RowsChange db after memory (tombstoned memory time) [])
    (hsome : (versionsOf db memory).countP (fun old ↦ old.2.status ≠ .deleted) ≠ 0) :
    memoryTransitions db after =
      [.forgotten ((versionsOf db memory).countP fun old ↦ old.2.status ≠ .deleted)] := by
  have hsuperseded : supersededRows db after = [] := by
    rw [hrows.supersededRows_eq, List.filterMap_eq_nil_iff]
    intro old _
    refine if_neg ?_
    rintro ⟨hactive, hstatus⟩
    unfold tombstoned at hstatus
    split_ifs at hstatus
    rw [hactive] at hstatus
    cases hstatus
  have hforgotten : forgottenRows db after =
      (versionsOf db memory).countP fun old ↦ old.2.status ≠ .deleted := by
    rw [hrows.forgottenRows_eq, versionsOf, List.countP_filter]
    refine List.countP_congr fun old _ ↦ ?_
    by_cases hpresent : old.2.memoryKey = memory ∧ old.2.status ≠ .deleted
    · simp [tombstoned, hpresent]
    · simp only [tombstoned, hpresent, if_false, decide_eq_true_eq, Bool.and_eq_true]
      constructor
      · exact fun hstatus ↦ (hstatus.1 hstatus.2).elim
      · exact fun hstatus ↦ (hpresent hstatus.symm).elim
  rw [memoryTransitions, hsuperseded, hforgotten, if_neg hsome]
  rfl

theorem transition_of_creates {event : MemoryEventRow} {entry : String × MemoryRow}
    (hevent : event.Creates entry) : event.transition = none := by
  unfold MemoryEventRow.transition
  rw [hevent.1.eventType]
  rfl

/-- A mutation logs the transitions it makes. -/
theorem MemoryChange.transitions {db after : Database} {memory : MemoryKey}
    (hchange : MemoryChange db memory after) :
    after.memoryEvents.filterMap MemoryEventRow.transition =
      db.memoryEvents.filterMap MemoryEventRow.transition ++ memoryTransitions db after := by
  cases hchange with
  | same hrecords hevents =>
    have hrows : RowsChange db after memory Prod.snd [] :=
      ⟨by simp [hrecords], fun _ _ ↦ .kept, fun _ _ _ ↦ rfl, .inl rfl⟩
    rw [hevents, hrows.transitions_kept, List.append_nil]
  | created entry event hrows hevent hevents =>
    rw [hevents, hrows.transitions_kept, List.filterMap_append]
    simp [transition_of_creates hevent]
  | superseded activeId time row entry retired event hfind hmemory hactive hrows hretired _
      hreplacement hevent hevents =>
    have hretire : retired.transition = some (.superseded activeId entry.2.version) := by
      unfold MemoryEventRow.transition
      rw [hretired.eventType, hretired.memoryId, hreplacement.2]
      rfl
    rw [hevents, hrows.transitions_superseded hfind hmemory hactive, List.filterMap_append]
    simp [transition_of_creates hevent, hretire]
  | deleted memoryId time event hrows hsome hevent hcount hevents =>
    have hforget : event.transition = some (.forgotten
        ((versionsOf db memory).countP fun old ↦ old.2.status ≠ .deleted)) := by
      unfold MemoryEventRow.transition
      rw [hevent.eventType, hcount]
      rfl
    rw [hevents, hrows.transitions_tombstoned hsome, List.filterMap_append]
    simp [hforget]

/-! ### Whole histories -/

theorem MemoryChange.rowsChange {db after : Database} {memory : MemoryKey}
    (hchange : MemoryChange db memory after) :
    ∃ change new, RowsChange db after memory change new := by
  cases hchange with
  | same hrecords _ =>
    exact ⟨Prod.snd, [], by simp [hrecords], fun _ _ ↦ .kept, fun _ _ _ ↦ rfl, .inl rfl⟩
  | created _ _ hrows => exact ⟨_, _, hrows⟩
  | superseded _ _ _ _ _ _ _ _ _ hrows => exact ⟨_, _, hrows⟩
  | deleted _ _ _ hrows => exact ⟨_, _, hrows⟩

theorem inOrder_apply (hasher : Hasher) {db : Database} (horder : MemoryInOrder db)
    (request : Request) : MemoryInOrder (request.apply hasher db) := by
  obtain ⟨memory, hchange, -⟩ := memoryChange_of_apply hasher horder.oneActive request
  exact hchange.inOrder horder

/-- Every row of a later state descends from the row it was. -/
def RowsDescend (db after : Database) : Prop :=
  ∀ memoryId row, db.memoryRecords.find memoryId = some row →
    ∃ later, after.memoryRecords.find memoryId = some later ∧ row.Descends later

theorem rowsDescend_apply (hasher : Hasher) {db : Database} (horder : MemoryInOrder db)
    (request : Request) : RowsDescend db (request.apply hasher db) := by
  intro memoryId row hfind
  obtain ⟨memory, hchange, -⟩ := memoryChange_of_apply hasher horder.oneActive request
  obtain ⟨change, new, hrows⟩ := hchange.rowsChange
  have hages := hrows.ages (memoryId, row) ((Table.mem_rows_iff _ _ _).mpr hfind)
  exact ⟨_, hrows.find hfind, hages.descends⟩

theorem rowsDescend_run (hasher : Hasher) {db : Database} (horder : MemoryInOrder db)
    (more : List Request) : RowsDescend db ((storeMachine hasher).run db more) := by
  refine (storeMachine hasher).stable_run MemoryInOrder RowsDescend ?_ ?_
    (fun _ request hstate _ ↦ inOrder_apply hasher hstate request)
    (fun _ request hstate _ ↦ rowsDescend_apply hasher hstate request) horder
    ((storeMachine hasher).admits_true db more)
  · exact fun _ _ row hfind ↦ ⟨row, hfind, .refl row⟩
  · intro first second third hfirst hsecond memoryId row hfind
    obtain ⟨middle, hmiddle, hdescends⟩ := hfirst memoryId row hfind
    obtain ⟨later, hlater, hdescends'⟩ := hsecond memoryId middle hmiddle
    exact ⟨later, hlater, hdescends.trans hdescends'⟩

/-- What an upsert writes and where. -/
def Request.writes (request : Request) : Option (MemoryScope × MemoryWrite) :=
  match request.call with
  | .memory (.upsert scope write ..) => some (scope, write)
  | .memory (.upsertFromRun _ scope write ..) => some (scope, write)
  | _ => none

/-- The write repeats the value and the expiry of the ACTIVE row. -/
def RepeatsActive (db : Database) (scope : MemoryScope) (write : MemoryWrite) : Prop :=
  ∃ entry ∈ db.memoryRecords.rows, entry.2.memoryKey = scope.memoryKey write.kind write.key ∧
    entry.2.status = .active ∧ entry.2.value = write.value.sortKeys ∧
    entry.2.expiresAt = write.expiresAt

theorem upsertMemory_of_repeats {db after : Database} {reading : Reading} {scope : MemoryScope}
    {write : MemoryWrite} {runId threadId actor : String} {reply : MemoryMutationResult}
    (hone : OneActiveVersion db) (hrepeats : RepeatsActive db scope write)
    (hok : upsertMemory db reading scope write runId threadId actor = .ok (reply, after)) :
    after = db := by
  obtain ⟨entry, hmem, hmemory, hstatus, hvalue, hexpires⟩ := hrepeats
  unfold upsertMemory at hok
  simp only at hok
  split at hok
  · next activeId row hactive =>
    obtain ⟨hrow, hkey, hrowStatus⟩ := find_active hactive
    obtain rfl := hone entry hmem _ hrow (hmemory.trans hkey.symm) hstatus hrowStatus
    rw [if_pos ⟨hvalue, hexpires⟩] at hok
    exact eq_of_ok hok
  · next hactive =>
    exact (no_active hactive entry (mem_versionsOf.mpr ⟨hmem, hmemory⟩) hstatus).elim

/-- An upsert that repeats the ACTIVE row changes no table. -/
theorem apply_of_repeats (hasher : Hasher) {db : Database} (hone : OneActiveVersion db)
    {request : Request} {scope : MemoryScope} {write : MemoryWrite}
    (hwrites : request.writes = some (scope, write)) (hrepeats : RepeatsActive db scope write) :
    request.apply hasher db = db := by
  obtain ⟨reading, call⟩ := request
  cases hperform : call.perform hasher db reading with
  | error error => exact apply_of_error hperform
  | ok result =>
    obtain ⟨reply, after⟩ := result
    rw [apply_of_ok hperform]
    cases call with
    | run | workflow => cases hwrites
    | memory call =>
      cases call with
      | forgetMemory | getOrCreateRunSnapshot | getOrCreateRunSnapshotForRun
      | listEventsForRun => cases hwrites
      | upsert =>
        obtain ⟨rfl, rfl⟩ := Prod.mk.inj (Option.some.inj hwrites)
        simp only [Call.perform, MemoryCall.perform, Store.upsert] at hperform
        split_ifs at hperform
        exact upsertMemory_of_repeats hone hrepeats hperform
      | upsertFromRun =>
        obtain ⟨rfl, rfl⟩ := Prod.mk.inj (Option.some.inj hwrites)
        simp only [Call.perform, MemoryCall.perform, Store.upsertFromRun] at hperform
        split_ifs at hperform
        split at hperform
        · cases hperform
        · split at hperform
          · cases hperform
          · exact upsertMemory_of_repeats hone hrepeats hperform

/-- What one request may do to the memories, in a state where they are in order. -/
structure MemoryStep (hasher : Hasher) (db : Database) (request : Request) : Prop where
  /-- Only versions of its own memory change. -/
  versions : ∀ other, request.memoryKey db ≠ some other →
    versionsOf (request.apply hasher db) other = versionsOf db other
  /-- The audit log grows by events about its own memory. -/
  events : ∃ new, (request.apply hasher db).memoryEvents = db.memoryEvents ++ new ∧
    ∀ event ∈ new, ∃ memory eventType memoryId, request.memoryKey db = some memory ∧
      event.Names eventType memoryId memory
  /-- An upsert that repeats the ACTIVE row changes no table. -/
  repeated : ∀ scope write, request.writes = some (scope, write) → RepeatsActive db scope write →
    request.apply hasher db = db
  /-- A call that raises changes no table. -/
  raised : ∀ error, request.call.perform hasher db request.reading = .error error →
    request.apply hasher db = db

theorem MemoryChange.events {db after : Database} {memory : MemoryKey}
    (hchange : MemoryChange db memory after) :
    ∃ new, after.memoryEvents = db.memoryEvents ++ new ∧
      ∀ event ∈ new, ∃ eventType memoryId, event.Names eventType memoryId memory := by
  have hcreates {change : String × MemoryRow → MemoryRow} {entry : String × MemoryRow}
      {event : MemoryEventRow} (hrows : RowsChange db after memory change [entry])
      (hevent : event.Creates entry) : event.Names "memory.created" entry.1 memory := by
    rcases hrows.added with hnone | ⟨_, row, hentry, hmemory, -⟩
    · cases hnone
    · obtain rfl := List.singleton_inj.mp hentry
      exact hmemory ▸ hevent.1
  cases hchange with
  | same _ hevents => exact ⟨[], by simp [hevents], by simp⟩
  | created entry event hrows hevent hevents =>
    refine ⟨[event], hevents, fun other hmem ↦ ?_⟩
    rw [List.mem_singleton.mp hmem]
    exact ⟨_, _, hcreates hrows hevent⟩
  | superseded _ _ _ entry retired event _ _ _ hrows hretired _ _ hevent hevents =>
    refine ⟨[retired, event], hevents, fun other hmem ↦ ?_⟩
    rcases List.mem_pair.mp hmem with rfl | rfl
    · exact ⟨_, _, hretired⟩
    · exact ⟨_, _, hcreates hrows hevent⟩
  | deleted memoryId _ event _ _ hevent _ hevents =>
    refine ⟨[event], hevents, fun other hmem ↦ ?_⟩
    rw [List.mem_singleton.mp hmem]
    exact ⟨_, _, hevent⟩

theorem memoryStep_of_inOrder (hasher : Hasher) {db : Database} (horder : MemoryInOrder db)
    (request : Request) : MemoryStep hasher db request := by
  obtain ⟨memory, hchange, htarget⟩ := memoryChange_of_apply hasher horder.oneActive request
  refine ⟨fun other hother ↦ ?_, ?_, fun scope write hwrites hrepeats ↦
    apply_of_repeats hasher horder.oneActive hwrites hrepeats, fun error ↦ apply_of_error⟩
  · rcases htarget with hmemory | hsame
    · obtain ⟨change, new, hrows⟩ := hchange.rowsChange
      exact hrows.versionsOf_other fun heq ↦ hother (heq ▸ hmemory)
    · unfold versionsOf
      rw [hsame.1]
  · rcases htarget with hmemory | hsame
    · obtain ⟨new, hevents, hnames⟩ := hchange.events
      refine ⟨new, hevents, fun event hmem ↦ ?_⟩
      obtain ⟨eventType, memoryId, hevent⟩ := hnames event hmem
      exact ⟨memory, eventType, memoryId, hmemory, hevent⟩
    · exact ⟨[], by simp [hsame.2], by simp⟩

/-- Whoever writes and forgets memories through the stores, in whatever order: every memory is in
order, the audit log names the transitions of the rows one by one, rows only ever age, what was
there when a memory was forgotten stays a tombstone for ever, and every request keeps to its own
memory. -/
theorem memory_versions_are_in_order (hasher : Hasher) (history : List Request) :
    let db := (storeMachine hasher).run Database.empty history
    MemoryInOrder db ∧ OneActiveVersion db ∧
      db.memoryEvents.filterMap MemoryEventRow.transition =
        (storeMachine hasher).log (fun state request ↦
          memoryTransitions state (request.apply hasher state)) Database.empty history ∧
      (∀ request, MemoryStep hasher db request) ∧
      (∀ more, RowsDescend db ((storeMachine hasher).run db more)) ∧
      ∀ reading memoryId tenantId subjectId actor reply after,
        forgetMemory db reading memoryId tenantId subjectId actor = .ok (reply, after) →
        ∃ target, db.memoryRecords.find memoryId = some target ∧
          ∀ other row, db.memoryRecords.find other = some row →
            row.memoryKey = target.memoryKey →
            ∃ tombstone, tombstone.status = .deleted ∧ tombstone.value = .null ∧
              ∀ more, ((storeMachine hasher).run after more).memoryRecords.find other =
                some tombstone := by
  intro db
  have hlogged := (storeMachine hasher).invariant_log
    (fun state notes ↦ MemoryInOrder state ∧
      state.memoryEvents.filterMap MemoryEventRow.transition = notes)
    (fun state notes request hstate _ ↦ by
      obtain ⟨memory, hchange, -⟩ := memoryChange_of_apply hasher hstate.1.oneActive request
      exact ⟨hchange.inOrder hstate.1, hstate.2 ▸ hchange.transitions⟩)
    ⟨memoryInOrder_empty, rfl⟩ ((storeMachine hasher).admits_true Database.empty history)
  have horder : MemoryInOrder db := hlogged.1
  refine ⟨horder, horder.oneActive, hlogged.2, memoryStep_of_inOrder hasher horder,
    rowsDescend_run hasher horder, ?_⟩
  intro reading memoryId tenantId subjectId actor reply after hok
  obtain ⟨target, htarget, hchange, hgone⟩ := memoryChange_of_forgetMemory hok
  refine ⟨target, htarget, fun other row hfind hmemory ↦ ?_⟩
  have hafter := hchange.inOrder horder
  obtain ⟨change, new, hrows⟩ := hchange.rowsChange
  have hlater := hrows.find hfind
  have hmem := (Table.mem_rows_iff _ _ _).mpr hlater
  have hages := hrows.ages (other, row) ((Table.mem_rows_iff _ _ _).mpr hfind)
  have hstatus := hgone _ (mem_versionsOf.mpr ⟨hmem, hages.memoryKey.trans hmemory⟩)
  refine ⟨change (other, row), hstatus, hafter.deleted _ hmem hstatus, fun more ↦ ?_⟩
  obtain ⟨last, hlast, hdescends⟩ := rowsDescend_run hasher hafter more other _ hlater
  rw [hlast, hdescends.deleted hstatus]

end AgentRuntime.Store
