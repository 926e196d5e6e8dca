import AgentRuntime.Library.IsoTime
import AgentRuntime.Store.MemorySnapshots

/-!
# When a memory expires

`expires_at` is stored as the caller wrote it, and both queries for the memories in force compare it
as a text with the text of the current time, `datetime.now(timezone.utc).isoformat()`. A record
leaves them at the moment that its `expires_at` denotes exactly when texts and moments agree, which
`memory_expires_by_instant_iff` reads off the way the time is written.
-/

set_option autoImplicit false
set_option relaxedAutoImplicit false

namespace AgentRuntime.Store

open Library

/-- The listing asks for the domain and kind of the record, if it asks for any. -/
def MemoryRow.Requested (row : MemoryRow) (domainId : Option String) (kind : Option MemoryKind) :
    Prop :=
  (∀ domain, domainId = some domain → row.domainId = domain) ∧
    ∀ wanted, kind = some wanted → row.kind = wanted

/-- In every reachable state, an active record that expires at this time is listed, and sealed into
a new snapshot, exactly while the moment that is denoted lies ahead. -/
structure ExpiresByInstant (expiry : IsoTime) : Prop where
  listed : ∀ (hasher : Hasher) (history : List Request) (memoryId : String) (row : MemoryRow)
    (now : UtcTime) (reading : Reading) (domainId : Option String) (kind : Option MemoryKind)
    (found : List (String × MemoryRow)),
    let db := (storeMachine hasher).run Database.empty history
    db.memoryRecords.find memoryId = some row → row.status = .active →
      row.expiresAt = some expiry.text → reading.utcNow 0 = now.written.text →
      row.Requested domainId kind →
      listMemories db reading row.tenantId row.subjectId domainId kind false = .ok found →
        ((memoryId, row) ∈ found ↔ now.instant < expiry.instant)
  sealed : ∀ (hasher : Hasher) (history : List Request) (memoryId : String) (row : MemoryRow)
    (now : UtcTime) (reading : Reading) (runId : String) (allowedKeys : Option (List String))
    (snapshot : MemorySnapshot) (after : Database),
    let db := (storeMachine hasher).run Database.empty history
    let scope : MemoryScope := ⟨row.tenantId, row.subjectId, row.domainId⟩
    db.memoryRecords.find memoryId = some row → row.status = .active →
      row.expiresAt = some expiry.text → reading.utcNow 0 = now.written.text →
      db.memorySnapshots.find runId = none → (∀ keys, allowedKeys = some keys → row.key ∈ keys) →
      (getOrCreateRunSnapshot db reading runId scope allowedKeys = .ok (snapshot, after) ∨
        ∃ token, getOrCreateRunSnapshotForRun db reading token runId scope allowedKeys =
          .ok (snapshot, after)) →
        (retrievedMemory (memoryId, row) ∈ snapshot.memories ↔ now.instant < expiry.instant)

/-- What a listing without inactive records holds. -/
theorem mem_listMemories {db : Database} {reading : Reading} {tenantId subjectId : String}
    {domainId : Option String} {kind : Option MemoryKind} {found : List (String × MemoryRow)}
    {memoryId : String} {row : MemoryRow}
    (hlist : listMemories db reading tenantId subjectId domainId kind false = .ok found) :
    (memoryId, row) ∈ found ↔ db.memoryRecords.find memoryId = some row ∧
      row.tenantId = tenantId ∧ row.subjectId = subjectId ∧ row.Requested domainId kind ∧
      row.status = .active ∧ ∀ expiresAt, row.expiresAt = some expiresAt →
        reading.utcNow 0 < expiresAt := by
  unfold listMemories at hlist
  split_ifs at hlist
  obtain rfl := Except.ok.inj hlist
  rw [List.mem_insertionSort, List.mem_filter, Table.mem_rows_iff]
  refine and_congr_right fun _ ↦ ?_
  unfold MemoryRow.Requested
  cases domainId <;> cases kind <;> cases row.expiresAt <;> simp [and_assoc]

/-- Of an active record that is asked for, the listing compares the time as a text. -/
theorem listed_iff {db : Database} {reading : Reading} {domainId : Option String}
    {kind : Option MemoryKind} {found : List (String × MemoryRow)} {memoryId text : String}
    {row : MemoryRow} (hfind : db.memoryRecords.find memoryId = some row)
    (hactive : row.status = .active) (hexpires : row.expiresAt = some text)
    (hrequested : row.Requested domainId kind)
    (hlist : listMemories db reading row.tenantId row.subjectId domainId kind false = .ok found) :
    (memoryId, row) ∈ found ↔ reading.utcNow 0 < text := by
  rw [mem_listMemories hlist, hexpires]
  constructor
  · rintro ⟨-, -, -, -, -, hexpiry⟩
    exact hexpiry text rfl
  · intro hlt
    refine ⟨hfind, rfl, rfl, hrequested, hactive, fun expiresAt heq ↦ ?_⟩
    exact Option.some.inj heq ▸ hlt

/-- A snapshot that is sealed now holds what the records show now. -/
theorem memories_of_seal {db after : Database} {reading : Reading} {runId : String}
    {scope : MemoryScope} {keys : Option (List String)} {snapshot : MemorySnapshot}
    (hnone : db.memorySnapshots.find runId = none)
    (hseal : sealSnapshot db reading runId scope keys = .ok (snapshot, after)) :
    snapshot.memories = snapshotMemories db scope keys (reading.utcNow 0) := by
  unfold sealSnapshot at hseal
  rw [hnone] at hseal
  rw [← (Prod.mk.inj (Except.ok.inj hseal)).1]

/-- A record is found again in a snapshot by its id. -/
theorem retrievedMemory_mem_iff {db : Database} {scope : MemoryScope}
    {keys : Option (List String)} {now memoryId : String} {row : MemoryRow}
    (hfind : db.memoryRecords.find memoryId = some row) :
    retrievedMemory (memoryId, row) ∈ snapshotMemories db scope keys now ↔
      row.Visible scope keys now := by
  rw [mem_snapshotMemories]
  constructor
  · rintro ⟨entry, hmem, hvisible, heq⟩
    have hid : memoryId = entry.1 := congrArg RetrievedMemory.memoryId heq
    have hsame := (Table.mem_rows_iff _ entry.1 entry.2).mp hmem
    rw [← hid, hfind] at hsame
    exact Option.some.inj hsame ▸ hvisible
  · exact fun hvisible ↦ ⟨(memoryId, row), (Table.mem_rows_iff _ _ _).mpr hfind, hvisible, rfl⟩

/-- A written time that compares as a text expires by its moment. -/
theorem expiresByInstant_of_comparesAsText {expiry : IsoTime}
    (hcompares : expiry.ComparesAsText) : ExpiresByInstant expiry := by
  constructor
  · intro hasher history memoryId row now reading domainId kind found db hfind hactive hexpires hnow
      hrequested hlist
    rw [listed_iff hfind hactive hexpires hrequested hlist, hnow]
    exact hcompares now
  · intro hasher history memoryId row now reading runId keys snapshot after db scope hfind hactive
      hexpires hnow hnone hallowed hok
    have hseal : sealSnapshot db reading runId scope keys = .ok (snapshot, after) := by
      rcases hok with hok | ⟨token, hok⟩
      · have hrun : runSnapshot db reading none runId scope keys = .ok (snapshot, after) := hok
        exact (seal_of_runSnapshot hrun).2
      · have hrun : runSnapshot db reading (some token) runId scope keys =
            .ok (snapshot, after) := hok
        exact (seal_of_runSnapshot hrun).2
    rw [memories_of_seal hnone hseal, retrievedMemory_mem_iff hfind, ← hcompares now, ← hnow]
    constructor
    · exact fun hvisible ↦ hvisible.unexpired _ hexpires
    · intro hlt
      refine ⟨rfl, rfl, rfl, hactive, fun expiresAt heq ↦ ?_, hallowed⟩
      rw [hexpires] at heq
      exact Option.some.inj heq ▸ hlt

/-- A preference that expires at the given text. -/
def expiringWrite (text : String) : MemoryWrite :=
  ⟨.preference, "hotel", .str "quiet", 1, some text⟩

/-- The request that stores it. -/
def expiringRequest (text : String) : Request :=
  ⟨sampleReading 0 "1",
    .memory (.upsert ⟨"acme", "ada", "travel"⟩ (expiringWrite text) "run_1" "trip"
    "ada")⟩

/-- The record that the request creates. -/
def expiringRow (text : String) : MemoryRow where
  tenantId := "acme"
  subjectId := "ada"
  domainId := "travel"
  kind := .preference
  key := "hotel"
  value := .str "quiet"
  status := .active
  sourceRunId := some "run_1"
  sourceThreadId := some "trip"
  confidence := 1
  version := 1
  createdAt := "1"
  updatedAt := "1"
  expiresAt := some text

theorem find_expiring (text : String) :
    ((storeMachine sampleHasher).run Database.empty [expiringRequest text]).memoryRecords.find
      "mem_1" = some (expiringRow text) := by
  rfl

/-- A time that a record expires by compares as a text. -/
theorem ExpiresByInstant.comparesAsText {expiry : IsoTime} (hexpires : ExpiresByInstant expiry) :
    expiry.ComparesAsText := by
  intro now
  let reading : Reading := ⟨0, fun _ ↦ now.written.text, fun _ ↦ ""⟩
  obtain ⟨found, hlist⟩ : ∃ found, listMemories ((storeMachine sampleHasher).run Database.empty
      [expiringRequest expiry.text]) reading "acme" "ada" none none false = .ok found := ⟨_, rfl⟩
  have hrequested : (expiringRow expiry.text).Requested none none :=
    ⟨fun _ heq ↦ (Option.some_ne_none _ heq.symm).elim,
      fun _ heq ↦ (Option.some_ne_none _ heq.symm).elim⟩
  have hlisted := hexpires.listed sampleHasher [expiringRequest expiry.text] "mem_1"
    (expiringRow expiry.text) now reading none none found (find_expiring expiry.text) rfl rfl rfl
    hrequested hlist
  rw [← hlisted]
  exact (listed_iff (find_expiring expiry.text) rfl rfl hrequested hlist).symm

/-- Records expire by the moment exactly when it is written the way the clock writes it: in UTC with
`+00:00` and either no fraction or one of at most six digits that are not all zero. Beyond that only
times with a digit below the microsecond, and the last microsecond of all behind UTC. -/
theorem memory_expires_by_instant_iff (expiry : IsoTime) :
    ExpiresByInstant expiry ↔ expiry.Aligned := by
  rw [← IsoTime.comparesAsText_iff]
  exact ⟨ExpiresByInstant.comparesAsText, expiresByInstant_of_comparesAsText⟩

/-- `2030-01-01T08:00:00+08:00`, the first moment of 2030 in UTC. -/
def eveningExpiry : IsoTime where
  clock := ⟨2030, 1, 1, 8, 0, 0, by decide, by decide, by decide, by decide, Zone.zero_lt_sixty,
    Zone.zero_lt_sixty⟩
  fraction := []
  zone := .ahead 8 0 (by decide) Zone.zero_lt_sixty

theorem evening_expiry_is_late : ¬ ExpiresByInstant eveningExpiry := by
  intro hexpires
  have hahead : 0 < eveningExpiry.zone.minutesAhead := by decide
  exact IsoTime.not_comparesAsText_of_ahead hahead hexpires.comparesAsText

end AgentRuntime.Store
