import AgentRuntime.Execution.MemoryReplay

/-!
# Memories that nobody disturbs

`keepsFirstWrite` looks at the ACTIVE row when a Run writes a memory again. Here the same is said by
what others do between the two writes: if nobody writes another value to the memory or forgets it,
and the Run writes the same value again, then the row is still as it was written
(`keepsFirstWrites_of_undisturbed`), and no Run creates two versions of a memory.
-/

set_option autoImplicit false
set_option relaxedAutoImplicit false

namespace AgentRuntime.Execution

open Library Store

/-! ### What was written -/

/-- The Run in whose name an upsert writes. -/
def writingRun (request : Request) : Option String :=
  match request.call with
  | .memory (.upsert _ _ runId ..) => some runId
  | .memory (.upsertFromRun _ _ _ runId ..) => some runId
  | _ => none

/-- The request writes to this memory in the name of this Run. -/
structure WritesMemory (request : Request) (runId : String) (memory : MemoryKey)
    (write : MemoryWrite) : Prop where
  source : writingRun request = some runId
  target : ∃ scope, request.writes = some (scope, write) ∧
    scope.memoryKey write.kind write.key = memory

/-- The ACTIVE row of the memory has the value and the expiry of the write. -/
def HoldsWrite (db : Database) (memory : MemoryKey) (write : MemoryWrite) : Prop :=
  ∃ entry ∈ db.memoryRecords.rows, entry.2.memoryKey = memory ∧ entry.2.status = .active ∧
    entry.2.value = write.value.sortKeys ∧ entry.2.expiresAt = write.expiresAt

/-- The two writes are of the same value with the same expiry. -/
def SameValue (write other : MemoryWrite) : Prop :=
  write.value.sortKeys = other.value.sortKeys ∧ write.expiresAt = other.expiresAt

/-- The request is about another memory, or it writes once more what was written. A forget request
for the memory is neither. -/
def LeavesWritten (db : Database) (memory : MemoryKey) (write : MemoryWrite) (request : Request) :
    Prop :=
  request.memoryKey db ≠ some memory ∨
    ∃ scope other, request.writes = some (scope, other) ∧ SameValue write other

/-- The request of the event, if it makes one, leaves what was written. -/
def EventLeaves (memory : MemoryKey) (write : MemoryWrite) (system : System) (label : Label) :
    Prop :=
  ∀ request, label.request system = some request →
    LeavesWritten system.world.db memory write request

theorem memoryKey_of_writes {db : Database} {request : Request} {scope : MemoryScope}
    {write : MemoryWrite} (hwrites : request.writes = some (scope, write)) :
    request.memoryKey db = some (scope.memoryKey write.kind write.key) := by
  obtain ⟨reading, call⟩ := request
  cases call with
  | run | workflow => cases hwrites
  | memory call =>
    cases call with
    | upsert | upsertFromRun =>
      obtain ⟨rfl, rfl⟩ := Prod.mk.inj (Option.some.inj hwrites)
      rfl
    | _ => cases hwrites

/-- Requests that leave a memory as it was written keep its ACTIVE row. -/
theorem HoldsWrite.apply (hasher : Hasher) {db : Database} (horder : MemoryInOrder db)
    {memory : MemoryKey} {write : MemoryWrite} (hholds : HoldsWrite db memory write)
    {request : Request} (hleaves : LeavesWritten db memory write request) :
    HoldsWrite (request.apply hasher db) memory write := by
  obtain ⟨entry, hmem, hmemory, hstatus, hvalue, hexpires⟩ := hholds
  by_cases hkey : request.memoryKey db = some memory
  · obtain ⟨scope, other, hwrites, hsame⟩ := hleaves.resolve_left (not_not.mpr hkey)
    have htarget : scope.memoryKey other.kind other.key = memory :=
      Option.some.inj ((memoryKey_of_writes hwrites).symm.trans hkey)
    have hrepeats : RepeatsActive db scope other :=
      ⟨entry, hmem, hmemory.trans htarget.symm, hstatus, hvalue.trans hsame.1,
        hexpires.trans hsame.2⟩
    rw [apply_of_repeats hasher horder.oneActive hwrites hrepeats]
    exact ⟨entry, hmem, hmemory, hstatus, hvalue, hexpires⟩
  · have hversions := (memoryStep_of_inOrder hasher horder request).versions memory hkey
    have hlater : entry ∈ versionsOf (request.apply hasher db) memory := by
      rw [hversions]
      exact mem_versionsOf.mpr ⟨hmem, hmemory⟩
    exact ⟨entry, (mem_versionsOf.mp hlater).1, hmemory, hstatus, hvalue, hexpires⟩

/-- A write that returns is stored. -/
theorem holdsWrite_of_upsertMemory {db after : Database} {reading : Reading} {scope : MemoryScope}
    {write : MemoryWrite} {sourceRunId threadId actor : String} {reply : MemoryMutationResult}
    (hok : upsertMemory db reading scope write sourceRunId threadId actor = .ok (reply, after)) :
    HoldsWrite after (scope.memoryKey write.kind write.key) write := by
  have hstored (table : Table String MemoryRow) (memoryId : String) (row : MemoryRow)
      (hfresh : table.find memoryId = none)
      (hmemory : row.memoryKey = scope.memoryKey write.kind write.key)
      (hstatus : row.status = .active) (hvalue : row.value = write.value.sortKeys)
      (hexpires : row.expiresAt = write.expiresAt) :
      ∃ entry ∈ (table.insert memoryId row).rows,
        entry.2.memoryKey = scope.memoryKey write.kind write.key ∧ entry.2.status = .active ∧
          entry.2.value = write.value.sortKeys ∧ entry.2.expiresAt = write.expiresAt := by
    have hfind : (table.insert memoryId row).find memoryId = some row := by
      rw [Table.find_insert_of_fresh _ _ _ _ hfresh, if_pos rfl]
    exact ⟨(memoryId, row), (Table.mem_rows_iff _ _ _).mpr hfind, hmemory, hstatus, hvalue,
      hexpires⟩
  unfold upsertMemory at hok
  simp only [filter_isVersionOf] at hok
  split at hok
  · next activeId row hactive =>
    obtain ⟨hmem, hmemory, hstatus⟩ := find_active hactive
    split_ifs at hok with hsame hfresh hactor
    · rw [eq_of_ok hok]
      exact ⟨_, hmem, hmemory, hstatus, hsame.1, hsame.2⟩
    · rw [eq_of_ok hok]
      refine hstored _ _ _ ?_ rfl rfl rfl rfl
      rw [Table.find_modify, Option.not_isSome_iff_eq_none.mp hfresh]
      simp
  · split_ifs at hok with hfresh hactor
    rw [eq_of_ok hok]
    exact hstored _ _ _ (Option.not_isSome_iff_eq_none.mp hfresh) rfl rfl rfl rfl

/-! ### Between two writes -/

section Between

variable {hasher : Hasher} {manager : RuntimeManager} {system : System} {label : Label}
  {labels : List Label} {runId : String} {memory : MemoryKey} {write : MemoryWrite}

/-- In this event the Run writes the memory. -/
def EventWrites (system : System) (label : Label) (runId : String) (memory : MemoryKey)
    (write : MemoryWrite) : Prop :=
  ∃ request, label.request system = some request ∧ WritesMemory request runId memory write

theorem inOrder_next (hasher : Hasher) (manager : RuntimeManager)
    (horder : MemoryInOrder system.world.db) (label : Label) :
    MemoryInOrder (system.next hasher manager label).world.db := by
  rcases memory_of_next hasher manager system label with hsame | ⟨request, -, hdb⟩
  · have hchange : MemoryChange system.world.db ⟨"", "", "", .fact, ""⟩
        (system.next hasher manager label).world.db := .same hsame.1 hsame.2.1
    exact hchange.inOrder horder
  · rw [hdb]
    exact inOrder_apply hasher horder request

theorem inOrder_reached (hasher : Hasher) (manager : RuntimeManager) (labels : List Label) :
    MemoryInOrder ((systemMachine hasher manager).run System.init labels).world.db :=
  (systemMachine hasher manager).invariant_run (fun system ↦ MemoryInOrder system.world.db)
    (fun _ label horder _ ↦ inOrder_next hasher manager horder label) memoryInOrder_empty
    ((systemMachine hasher manager).admits_true System.init labels)

theorem HoldsWrite.next (hholds : HoldsWrite system.world.db memory write)
    (horder : MemoryInOrder system.world.db) (hleaves : EventLeaves memory write system label) :
    HoldsWrite (system.next hasher manager label).world.db memory write := by
  rcases memory_of_next hasher manager system label with hsame | ⟨request, hrequest, hdb⟩
  · unfold HoldsWrite
    rw [hsame.1]
    exact hholds
  · rw [hdb]
    exact hholds.apply hasher horder (hleaves request hrequest)

/-- What was written stays through events that leave it. -/
theorem HoldsWrite.run (hholds : HoldsWrite system.world.db memory write)
    (horder : MemoryInOrder system.world.db)
    (hleaves : (systemMachine hasher manager).Admits (EventLeaves memory write) system labels) :
    HoldsWrite ((systemMachine hasher manager).run system labels).world.db memory write :=
  ((systemMachine hasher manager).invariant_run
    (fun system ↦ MemoryInOrder system.world.db ∧ HoldsWrite system.world.db memory write)
    (fun _ label hstate hevent ↦
      ⟨inOrder_next hasher manager hstate.1 label, hstate.2.next hstate.1 hevent⟩)
    ⟨horder, hholds⟩ hleaves).2

/-- A Run gets another version of a memory only by a write of its own, which is stored then. -/
theorem written_of_createdCount (horder : MemoryInOrder system.world.db)
    (hmore : createdCount system.world.db runId memory ≠
      createdCount (system.next hasher manager label).world.db runId memory) :
    ∃ write, EventWrites system label runId memory write ∧
      HoldsWrite (system.next hasher manager label).world.db memory write := by
  rcases memory_of_next hasher manager system label with hsame | ⟨request, hrequest, hdb⟩
  · exact (hmore (createdCount_of_sameRecords ⟨hsame.1, hsame.2.1⟩ runId memory).symm).elim
  · rw [hdb] at hmore ⊢
    obtain ⟨reading, call⟩ := request
    rcases memory_of_apply hasher system.world.db ⟨reading, call⟩ with
      hsame | ⟨call, reply, rfl, hok⟩
    · exact (hmore (createdCount_of_sameRecords ⟨hsame.1, hsame.2.1⟩ runId memory).symm).elim
    -- a write that stores a new version counts for its own Run and memory only
    have hstored {scope : MemoryScope} {write : MemoryWrite} {source threadId actor : String}
        {reply : MemoryMutationResult} (hwrites : Request.writes ⟨reading, .memory call⟩ =
          some (scope, write)) (hsource : writingRun ⟨reading, .memory call⟩ = some source)
        (hwrite : upsertMemory system.world.db reading scope write source threadId actor =
          .ok (reply, Request.apply hasher system.world.db ⟨reading, .memory call⟩)) :
        ∃ write, EventWrites system label runId memory write ∧
          HoldsWrite (Request.apply hasher system.world.db ⟨reading, .memory call⟩) memory
            write := by
      rcases createdCount_of_upsertMemory horder hwrite with ⟨-, hafter⟩ | ⟨-, hcount⟩
      · rw [hafter] at hmore
        exact (hmore rfl).elim
      · rw [hcount] at hmore
        by_cases hown : runId = source ∧ memory = scope.memoryKey write.kind write.key
        · obtain ⟨rfl, rfl⟩ := hown
          exact ⟨write, ⟨_, hrequest, ⟨hsource, scope, hwrites, rfl⟩⟩,
            holdsWrite_of_upsertMemory hwrite⟩
        · rw [if_neg hown] at hmore
          exact (hmore rfl).elim
    cases call with
    | upsert scope write source thread actor =>
      exact hstored rfl rfl (upsertMemory_of_upsert hok)
    | upsertFromRun token scope write source thread actor =>
      exact hstored rfl rfl (upsertMemory_of_upsertFromRun hok).2
    | forgetMemory =>
      exact (hmore (createdCount_of_forgetMemory hok runId memory).symm).elim
    | getOrCreateRunSnapshot | getOrCreateRunSnapshotForRun | listEventsForRun =>
      rcases memoryChange_of_perform horder.oneActive hok with hsame | ⟨other, hnone, -⟩
      · exact (hmore (createdCount_of_sameRecords hsame runId memory).symm).elim
      · cases hnone

/-- The Run creates a version of the memory in this event, with this write. -/
def CreatesAt (hasher : Hasher) (manager : RuntimeManager) (before : List Label) (first : Label)
    (runId : String) (memory : MemoryKey) (write : MemoryWrite) : Prop :=
  EventWrites ((systemMachine hasher manager).run System.init before) first runId memory write ∧
    createdCount ((systemMachine hasher manager).run System.init before).world.db runId memory ≠
      createdCount ((systemMachine hasher manager).run System.init (before ++ [first])).world.db
        runId memory

/-- Between the write with which a Run created a version of a memory and a later write of the Run to
the memory, nobody writes another value to it or forgets it, and the later write is of the same
value. -/
def UndisturbedWrites (hasher : Hasher) (manager : RuntimeManager) (labels : List Label) : Prop :=
  ∀ before first between second after, labels = before ++ first :: (between ++ second :: after) →
    ∀ runId memory write rewrite, CreatesAt hasher manager before first runId memory write →
      EventWrites ((systemMachine hasher manager).run System.init (before ++ first :: between))
        second runId memory rewrite →
      SameValue write rewrite ∧
        (systemMachine hasher manager).Admits (EventLeaves memory write)
          ((systemMachine hasher manager).run System.init (before ++ [first])) between

theorem run_snoc (before : List Label) (first : Label) :
    (systemMachine hasher manager).run System.init (before ++ [first]) =
      System.next hasher manager ((systemMachine hasher manager).run System.init before) first := by
  rw [(systemMachine hasher manager).run_append]
  rfl

/-- A Run that has created a version of a memory did so in some event. -/
theorem exists_creation (hcreated : createdCount
      ((systemMachine hasher manager).run System.init labels).world.db runId memory ≠ 0) :
    ∃ before first between write, labels = before ++ first :: between ∧
      CreatesAt hasher manager before first runId memory write ∧
      HoldsWrite ((systemMachine hasher manager).run System.init (before ++ [first])).world.db
        memory write := by
  induction labels using List.reverseRecOn with
  | nil => exact (hcreated rfl).elim
  | append_singleton labels last ih =>
    by_cases hsame : createdCount ((systemMachine hasher manager).run System.init labels).world.db
        runId memory = createdCount ((systemMachine hasher manager).run System.init
          (labels ++ [last])).world.db runId memory
    · obtain ⟨before, first, between, write, rfl, hcreates⟩ := ih (hsame ▸ hcreated)
      exact ⟨before, first, between ++ [last], write, by simp, hcreates⟩
    · have hmore := hsame
      rw [run_snoc] at hmore
      obtain ⟨write, hwrites, hholds⟩ :=
        written_of_createdCount (inOrder_reached hasher manager labels) hmore
      rw [← run_snoc] at hholds
      exact ⟨labels, last, [], write, rfl, ⟨hwrites, hsame⟩, hholds⟩

/-- A write finds the memory as its Run has written it, if a version that the Run has created is
still stored with its value. -/
theorem keepsFirstWrite_of_holds {db : Database} {request : Request}
    (hholds : ∀ runId memory write, WritesMemory request runId memory write →
      createdCount db runId memory ≠ 0 → HoldsWrite db memory write) :
    keepsFirstWrite db request = true := by
  obtain ⟨reading, call⟩ := request
  have hrepeats (scope : MemoryScope) (write : MemoryWrite) (runId : String)
      (hwrites : WritesMemory ⟨reading, call⟩ runId (scope.memoryKey write.kind write.key) write) :
      createdCount db runId (scope.memoryKey write.kind write.key) = 0 ∨
        RepeatsActive db scope write := by
    by_cases hnone : createdCount db runId (scope.memoryKey write.kind write.key) = 0
    · exact .inl hnone
    · exact .inr (hholds runId _ write hwrites hnone)
  cases call with
  | run | workflow => rfl
  | memory call =>
    cases call with
    | upsert scope write runId threadId actor =>
      have hkept := hrepeats scope write runId ⟨rfl, scope, rfl, rfl⟩
      simpa only [keepsFirstWrite, Bool.or_eq_true, beq_iff_eq, decide_eq_true_eq] using hkept
    | upsertFromRun token scope write runId threadId actor =>
      have hkept := hrepeats scope write runId ⟨rfl, scope, rfl, rfl⟩
      simp only [keepsFirstWrite, Bool.or_eq_true, beq_iff_eq, decide_eq_true_eq]
      exact .inl hkept
    | _ => rfl

/-- Where nobody disturbs what a Run has written, its later writes find the memory as written. -/
theorem keepsFirstWrites_of_undisturbed (hundisturbed : UndisturbedWrites hasher manager labels) :
    (systemMachine hasher manager).Admits (fun system label ↦ keepsFirstWrites system label = true)
      System.init labels := by
  induction labels using List.reverseRecOn with
  | nil => trivial
  | append_singleton labels last ih =>
    have hbefore : UndisturbedWrites hasher manager labels := by
      rintro before first between second after rfl
      exact hundisturbed before first between second (after ++ [last]) (by simp)
    refine ((systemMachine hasher manager).admits_append _ _ _ _).mpr ⟨ih hbefore, ?_, trivial⟩
    show keepsFirstWrites ((systemMachine hasher manager).run System.init labels) last = true
    unfold keepsFirstWrites
    split
    · next request hrequest =>
      refine keepsFirstWrite_of_holds fun runId memory rewrite hwrites hcreated ↦ ?_
      obtain ⟨before, first, between, write, rfl, hcreates, hholds⟩ := exists_creation hcreated
      obtain ⟨hsame, hleaves⟩ := hundisturbed before first between last [] (by simp) runId memory
        write rewrite hcreates ⟨request, hrequest, hwrites⟩
      have hkept := hholds.run (inOrder_reached hasher manager _) hleaves
      rw [← (systemMachine hasher manager).run_append, List.append_assoc] at hkept
      obtain ⟨entry, hmem, hmemory, hstatus, hvalue, hexpires⟩ := hkept
      exact ⟨entry, hmem, hmemory, hstatus, hvalue.trans hsame.1, hexpires.trans hsame.2⟩
    · rfl

/-- In every run in which nobody writes another value to a memory, or forgets it, between two writes
of it by one Run, and the Run writes the same value both times, no Run creates two versions of a
memory. -/
theorem undisturbed_memory_is_written_once
    (hundisturbed : UndisturbedWrites hasher manager labels) (runId : String) (memory : MemoryKey) :
    createdCount ((systemMachine hasher manager).run System.init labels).world.db runId memory ≤
      1 := by
  have honce : MemoriesWrittenOnce ((systemMachine hasher manager).run System.init labels) :=
    (systemMachine hasher manager).invariant_run MemoriesWrittenOnce
      (fun _ _ hstate hkeeps ↦ memoriesWrittenOnce_next hasher manager hstate hkeeps)
      ⟨memoryInOrder_empty, fun _ _ ↦ Nat.zero_le 1⟩ (keepsFirstWrites_of_undisturbed hundisturbed)
  exact honce.2 runId memory

end Between

end AgentRuntime.Execution
