import AgentRuntime.Execution.StoreRequests
import AgentRuntime.Store.MemoryVersions

/-!
# Memory writes of recovered attempts

`remember` runs at the end of every attempt, and the memory is committed before the Run is. A
recovered attempt therefore writes again, and the upsert takes that for a repetition only while the
ACTIVE row still holds the value. When another Run has stored another value since, or the subject
has forgotten the memory, the second write creates a second version. `keepsFirstWrite` is the
condition under which a write is a repetition, and `memory_writes_take_effect_once` says that it is
enough.
-/

set_option autoImplicit false
set_option relaxedAutoImplicit false

namespace AgentRuntime.Execution

open Library Store

/-- The event reports a version of this memory that the Run created. -/
def createdBy (runId : String) (memory : MemoryKey) (event : MemoryEventRow) : Bool :=
  event.eventType == "memory.created" && event.sourceRunId == some runId &&
    event.tenantId == memory.tenantId && event.subjectId == memory.subjectId &&
    event.payload.getD "domain_id" == .str memory.domainId &&
    event.payload.getD "kind" == .str memory.kind.text &&
    event.payload.getD "key" == .str memory.key

/-- How many versions of a memory a Run has created. -/
def createdCount (db : Database) (runId : String) (memory : MemoryKey) : Nat :=
  db.memoryEvents.countP (createdBy runId memory)

instance RepeatsActive.decidable (db : Database) (scope : MemoryScope) (write : MemoryWrite) :
    Decidable (RepeatsActive db scope write) :=
  inferInstanceAs (Decidable (∃ entry ∈ db.memoryRecords.rows, _))

/-- Whoever writes a memory again finds it as written: an attempt that holds its lease writes a
memory that its Run has created before only while the ACTIVE row has the value and the expiry of the
write. An administrative write in the name of a Run is held to the same. -/
def keepsFirstWrite (db : Database) (request : Request) : Bool :=
  match request.call with
  | .memory (.upsert scope write runId _ _) =>
    createdCount db runId (scope.memoryKey write.kind write.key) == 0 ||
      decide (RepeatsActive db scope write)
  | .memory (.upsertFromRun leaseToken scope write runId _ _) =>
    createdCount db runId (scope.memoryKey write.kind write.key) == 0 ||
      decide (RepeatsActive db scope write) ||
      (currentAttempt db runId leaseToken request.reading.nowMs).isNone
  | _ => true

/-! ### One request -/

/-- The event of a version tells its Run and its memory. -/
theorem createdBy_created (event : MemoryEventRow) (scope : MemoryScope) (write : MemoryWrite)
    (sourceRunId runId : String) (memory : MemoryKey)
    (hnames : event.Names "memory.created" (event.memoryId.getD "")
      (scope.memoryKey write.kind write.key))
    (hsource : event.sourceRunId = some sourceRunId) :
    createdBy runId memory event = true ↔
      runId = sourceRunId ∧ memory = scope.memoryKey write.kind write.key := by
  have hkind (left right : MemoryKind) : left.text = right.text ↔ left = right :=
    MemoryKind.text_injective.eq_iff
  obtain ⟨tenantId, subjectId, domainId, kind, key⟩ := memory
  simp only [createdBy, hnames.eventType, hnames.tenantId, hnames.subjectId, hnames.domainId,
    hnames.kind, hnames.key, hsource, MemoryScope.memoryKey, Bool.and_eq_true, beq_iff_eq,
    Option.some.injEq, Json.str.injEq, hkind, MemoryKey.mk.injEq, true_and, and_assoc]
  constructor
  · rintro ⟨rfl, rfl, rfl, rfl, rfl, rfl⟩
    exact ⟨rfl, rfl, rfl, rfl, rfl, rfl⟩
  · rintro ⟨rfl, rfl, rfl, rfl, rfl, rfl⟩
    exact ⟨rfl, rfl, rfl, rfl, rfl, rfl⟩

/-- A write that repeats the ACTIVE row changes nothing, any other creates one version. -/
theorem createdCount_of_upsertMemory {db after : Database} {reading : Reading}
    {scope : MemoryScope} {write : MemoryWrite} {sourceRunId threadId actor : String}
    {reply : MemoryMutationResult} (horder : MemoryInOrder db)
    (hok : upsertMemory db reading scope write sourceRunId threadId actor = .ok (reply, after)) :
    RepeatsActive db scope write ∧ after = db ∨
      ¬ RepeatsActive db scope write ∧ ∀ runId memory,
        createdCount after runId memory = createdCount db runId memory +
          if runId = sourceRunId ∧ memory = scope.memoryKey write.kind write.key then 1 else 0 := by
  by_cases hrepeats : RepeatsActive db scope write
  · exact .inl ⟨hrepeats, upsertMemory_of_repeats horder.oneActive hrepeats hok⟩
  · refine .inr ⟨hrepeats, fun runId memory ↦ ?_⟩
    have hcount (event : MemoryEventRow)
        (hnames : event.Names "memory.created" (event.memoryId.getD "")
          (scope.memoryKey write.kind write.key))
        (hsource : event.sourceRunId = some sourceRunId) :
        [event].countP (createdBy runId memory) =
          if runId = sourceRunId ∧ memory = scope.memoryKey write.kind write.key then 1 else 0 := by
      have hiff := createdBy_created event scope write sourceRunId runId memory hnames hsource
      rw [List.countP_singleton]
      by_cases hsame : runId = sourceRunId ∧ memory = scope.memoryKey write.kind write.key
      · rw [if_pos (hiff.mpr hsame), if_pos hsame]
      · rw [if_neg (fun hcreated ↦ hsame (hiff.mp hcreated)), if_neg hsame]
    unfold upsertMemory at hok
    simp only [filter_isVersionOf] at hok
    split at hok
    · next activeId row hactive =>
      obtain ⟨hmem, hmemory, hstatus⟩ := find_active hactive
      split_ifs at hok with hsame hfresh hactor
      · exact (hrepeats ⟨_, hmem, hmemory, hstatus, hsame.1, hsame.2⟩).elim
      · rw [eq_of_ok hok]
        unfold createdCount appendMemoryEvent
        rw [List.countP_append, List.countP_append]
        refine congrArg₂ (· + ·) ?_ (hcount _ ⟨rfl, rfl, rfl, rfl, rfl, rfl, rfl⟩ rfl)
        simp [createdBy]
    · split_ifs at hok
      rw [eq_of_ok hok]
      unfold createdCount appendMemoryEvent
      rw [List.countP_append, hcount _ ⟨rfl, rfl, rfl, rfl, rfl, rfl, rfl⟩ rfl]

theorem upsertMemory_of_upsert {db after : Database} {reading : Reading} {scope : MemoryScope}
    {write : MemoryWrite} {runId threadId actor : String} {reply : MemoryMutationResult}
    (hok : upsert db reading scope write runId threadId actor = .ok (reply, after)) :
    upsertMemory db reading scope write runId threadId actor = .ok (reply, after) := by
  unfold upsert at hok
  split_ifs at hok
  exact hok

/-- A write of an attempt that returns was made under its lease. -/
theorem upsertMemory_of_upsertFromRun {db after : Database} {reading : Reading}
    {leaseToken : String} {scope : MemoryScope} {write : MemoryWrite}
    {runId threadId actor : String} {reply : MemoryMutationResult}
    (hok : upsertFromRun db reading leaseToken scope write runId threadId actor =
      .ok (reply, after)) :
    (currentAttempt db runId leaseToken reading.nowMs).isNone = false ∧
      upsertMemory db reading scope write runId threadId actor = .ok (reply, after) := by
  unfold upsertFromRun at hok
  split_ifs at hok
  split at hok
  · cases hok
  · split at hok
    · cases hok
    · next hlease =>
      refine ⟨?_, hok⟩
      unfold assertMemoryLease at hlease
      split at hlease
      · cases hlease
      · next row hrow =>
        rw [hrow]
        rfl

theorem createdCount_of_forgetMemory {db after : Database} {reading : Reading}
    {memoryId tenantId subjectId actor : String} {reply : String × MemoryRow}
    (hok : forgetMemory db reading memoryId tenantId subjectId actor = .ok (reply, after))
    (runId : String) (memory : MemoryKey) :
    createdCount after runId memory = createdCount db runId memory := by
  unfold forgetMemory at hok
  split at hok
  · cases hok
  · simp only at hok
    split_ifs at hok
    · rw [eq_of_ok hok]
    · rw [eq_of_ok hok]
      unfold createdCount appendMemoryEvent
      rw [List.countP_append]
      simp [createdBy]

/-- No Run has created two versions of a memory. -/
def WritesOnce (db : Database) : Prop :=
  ∀ runId memory, createdCount db runId memory ≤ 1

theorem createdCount_of_sameRecords {db after : Database} (hsame : SameRecords db after)
    (runId : String) (memory : MemoryKey) :
    createdCount after runId memory = createdCount db runId memory := by
  unfold createdCount
  rw [hsame.2]

/-- A write that is the first of its Run, or repeats the ACTIVE row, keeps `WritesOnce`. -/
theorem writesOnce_of_upsertMemory {db after : Database} {reading : Reading}
    {scope : MemoryScope} {write : MemoryWrite} {sourceRunId threadId actor : String}
    {reply : MemoryMutationResult} (horder : MemoryInOrder db) (honce : WritesOnce db)
    (hok : upsertMemory db reading scope write sourceRunId threadId actor = .ok (reply, after))
    (hkeeps : createdCount db sourceRunId (scope.memoryKey write.kind write.key) = 0 ∨
      RepeatsActive db scope write) :
    WritesOnce after := by
  intro runId memory
  rcases createdCount_of_upsertMemory horder hok with ⟨-, hafter⟩ | ⟨hnew, hcount⟩
  · rw [hafter]
    exact honce runId memory
  · rw [hcount]
    split_ifs with hown
    · have hfirst := hkeeps.resolve_right hnew
      rw [hown.1, hown.2, hfirst]
    · exact honce runId memory

/-- A request that writes no memory again unless it finds it as written keeps `WritesOnce`. -/
theorem writesOnce_apply (hasher : Hasher) {db : Database} (horder : MemoryInOrder db)
    (honce : WritesOnce db) {request : Request} (hkeeps : keepsFirstWrite db request = true) :
    WritesOnce (request.apply hasher db) := by
  intro runId memory
  rcases memory_of_apply hasher db request with hsame | ⟨call, reply, hcall, hok⟩
  · rw [createdCount_of_sameRecords ⟨hsame.1, hsame.2.1⟩]
    exact honce runId memory
  · cases call with
    | upsert scope write source thread actor =>
      simp only [keepsFirstWrite, hcall, Bool.or_eq_true, beq_iff_eq, decide_eq_true_eq] at hkeeps
      exact writesOnce_of_upsertMemory horder honce (upsertMemory_of_upsert hok) hkeeps runId memory
    | upsertFromRun token scope write source thread actor =>
      obtain ⟨hlease, hwrite⟩ := upsertMemory_of_upsertFromRun hok
      simp only [keepsFirstWrite, hcall, hlease, Bool.or_false, Bool.or_eq_true, beq_iff_eq,
        decide_eq_true_eq] at hkeeps
      exact writesOnce_of_upsertMemory horder honce hwrite hkeeps runId memory
    | forgetMemory =>
      rw [createdCount_of_forgetMemory hok]
      exact honce runId memory
    | getOrCreateRunSnapshot | getOrCreateRunSnapshotForRun | listEventsForRun =>
      rcases memoryChange_of_perform horder.oneActive hok with hsame | ⟨other, hnone, -⟩
      · rw [createdCount_of_sameRecords hsame]
        exact honce runId memory
      · cases hnone

/-- A repeated write that finds the memory as written changes no table. -/
theorem apply_of_keepsFirstWrite (hasher : Hasher) {db : Database} (horder : MemoryInOrder db)
    {reading : Reading} {token : String} {scope : MemoryScope} {write : MemoryWrite}
    {runId threadId actor : String}
    (hkeeps : keepsFirstWrite db
      ⟨reading, .memory (.upsertFromRun token scope write runId threadId actor)⟩ = true)
    (hwritten : createdCount db runId (scope.memoryKey write.kind write.key) ≠ 0) :
    Request.apply hasher db
      ⟨reading, .memory (.upsertFromRun token scope write runId threadId actor)⟩ = db := by
  cases hok : upsertFromRun db reading token scope write runId threadId actor with
  | error error => exact apply_of_error hok
  | ok result =>
    obtain ⟨reply, after⟩ := result
    obtain ⟨hlease, -⟩ := upsertMemory_of_upsertFromRun hok
    have hrepeats : RepeatsActive db scope write := by
      simpa [keepsFirstWrite, hlease, hwritten] using hkeeps
    exact apply_of_repeats hasher horder.oneActive rfl hrepeats

/-- A write that breaks the condition and returns does create a second version. -/
theorem createdCount_of_breaking {db after : Database} (horder : MemoryInOrder db)
    {reading : Reading} {token : String} {scope : MemoryScope} {write : MemoryWrite}
    {runId threadId actor : String} {reply : MemoryMutationResult}
    (hbreaks : keepsFirstWrite db
      ⟨reading, .memory (.upsertFromRun token scope write runId threadId actor)⟩ = false)
    (hok : upsertFromRun db reading token scope write runId threadId actor = .ok (reply, after)) :
    2 ≤ createdCount after runId (scope.memoryKey write.kind write.key) := by
  obtain ⟨hlease, hwrite⟩ := upsertMemory_of_upsertFromRun hok
  simp only [keepsFirstWrite, hlease, Bool.or_false, Bool.or_eq_false_iff, beq_eq_false_iff_ne,
    decide_eq_false_iff_not] at hbreaks
  obtain ⟨hwritten, hnew⟩ := hbreaks
  rcases createdCount_of_upsertMemory horder hwrite with ⟨hrepeats, -⟩ | ⟨-, hcount⟩
  · exact (hnew hrepeats).elim
  · rw [hcount, if_pos ⟨rfl, rfl⟩]
    omega

/-! ### The system -/

/-- The store request that an event makes. -/
def Label.request (system : System) : Label → Option Request
  | .work worker (.store reading _) =>
    match system.workers worker with
    | some (.call (.store call) _ _) => some ⟨reading, call⟩
    | _ => none
  | .control reading call => if isControlCall call then some ⟨reading, call⟩ else none
  | _ => none

/-- Every write of a memory in this event finds it as its Run has written it. -/
def keepsFirstWrites (system : System) (label : Label) : Bool :=
  match label.request system with
  | some request => keepsFirstWrite system.world.db request
  | none => true

/-- An event leaves the memories alone or applies its request. -/
theorem memory_of_next (hasher : Hasher) (manager : RuntimeManager) (system : System)
    (label : Label) :
    SameMemory system.world.db (system.next hasher manager label).world.db ∨
      ∃ request, label.request system = some request ∧
        (system.next hasher manager label).world.db =
          request.apply hasher system.world.db := by
  have hsame {db : Database} (heq : db = system.world.db) : SameMemory system.world.db db := by
    rw [heq]
    exact ⟨rfl, rfl, rfl⟩
  cases label with
  | work worker response =>
    simp only [System.next, System.work]
    split
    · next op hscope next hworker =>
      split
      · next answer world hperform =>
        rcases db_of_perform hperform with hdb | ⟨call, reading, fault, rfl, rfl, hdb⟩
        · exact .inl (hsame hdb)
        · exact .inr ⟨⟨reading, call⟩, by simp only [Label.request, hworker], hdb⟩
      · exact .inl (hsame rfl)
    · exact .inl (hsame rfl)
  | crash | applyEffect => exact .inl (hsame rfl)
  | claim reading owner duration =>
    left
    simp only [System.next, System.claim]
    split
    · next claim after hclaim => exact (onlyRunTables_of_claimNextRun hclaim).2
    · next after hclaim => exact (onlyRunTables_of_claimNextRun hclaim).2
    · exact hsame rfl
  | control reading call =>
    simp only [System.next]
    split_ifs with hcontrol
    · exact .inr ⟨⟨reading, call⟩, if_pos hcontrol, rfl⟩
    · exact .inl (hsame rfl)

/-- The memories are in order, and no Run has created two versions of one. -/
def MemoriesWrittenOnce (system : System) : Prop :=
  MemoryInOrder system.world.db ∧ WritesOnce system.world.db

theorem memoriesWrittenOnce_next (hasher : Hasher) (manager : RuntimeManager) {system : System}
    {label : Label} (honce : MemoriesWrittenOnce system)
    (hkeeps : keepsFirstWrites system label = true) :
    MemoriesWrittenOnce (system.next hasher manager label) := by
  obtain ⟨horder, hwrites⟩ := honce
  rcases memory_of_next hasher manager system label with hsame | ⟨request, hrequest, hdb⟩
  · have hrecords : SameRecords system.world.db (system.next hasher manager label).world.db :=
      ⟨hsame.1, hsame.2.1⟩
    have hchange : MemoryChange system.world.db ⟨"", "", "", .fact, ""⟩
        (system.next hasher manager label).world.db := .same hrecords.1 hrecords.2
    refine ⟨hchange.inOrder horder, fun runId memory ↦ ?_⟩
    rw [createdCount_of_sameRecords hrecords]
    exact hwrites runId memory
  · rw [keepsFirstWrites, hrequest] at hkeeps
    unfold MemoriesWrittenOnce
    rw [hdb]
    exact ⟨inOrder_apply hasher horder request, writesOnce_apply hasher horder hwrites hkeeps⟩

/-- In every run in which each attempt that writes a memory again finds it as its Run has written
it, no Run ever creates two versions of a memory, and the repeated writes change nothing; a write
that breaks the condition and returns does create a second version. -/
theorem memory_writes_take_effect_once (hasher : Hasher) (manager : RuntimeManager)
    (labels : List Label)
    (hadmits : (systemMachine hasher manager).Admits
      (fun system label ↦ keepsFirstWrites system label = true) System.init labels) :
    let db := ((systemMachine hasher manager).run System.init labels).world.db
    (∀ runId memory, createdCount db runId memory ≤ 1) ∧
      ∀ reading token scope write runId threadId actor,
        createdCount db runId (scope.memoryKey write.kind write.key) ≠ 0 →
        let request : Request :=
          ⟨reading, .memory (.upsertFromRun token scope write runId threadId actor)⟩
        (keepsFirstWrite db request = true → request.apply hasher db = db) ∧
        (keepsFirstWrite db request = false → ∀ reply after,
          upsertFromRun db reading token scope write runId threadId actor = .ok (reply, after) →
          2 ≤ createdCount after runId (scope.memoryKey write.kind write.key)) := by
  intro db
  have honce : MemoriesWrittenOnce ((systemMachine hasher manager).run System.init labels) :=
    (systemMachine hasher manager).invariant_run MemoriesWrittenOnce
      (fun _ _ hstate hkeeps ↦ memoriesWrittenOnce_next hasher manager hstate hkeeps)
      ⟨memoryInOrder_empty, fun _ _ ↦ Nat.zero_le 1⟩ hadmits
  refine ⟨honce.2, fun reading token scope write runId threadId actor hwritten ↦ ⟨?_, ?_⟩⟩
  · exact fun hkeeps ↦ apply_of_keepsFirstWrite hasher honce.1 hkeeps hwritten
  · exact fun hbreaks reply after hok ↦ createdCount_of_breaking honce.1 hbreaks hok

/-! ### A recovered attempt -/

/-- The preferences of two sample messages. -/
def samplePreferences (message : String) : TravelPreferences :=
  if message = "avoid red-eye flights" then ⟨some true, none, none⟩
  else if message = "red-eye flights are fine" then ⟨some false, none, none⟩
  else ⟨none, none, none⟩

/-- The sample server with the travel memory policy. -/
def memoryManager : RuntimeManager where
  registry := fun _ _ ↦ some
    { sampleRegistration with memory := some (TravelMemoryPolicy.policy samplePreferences) }
  formatTraceback := Failure.text

/-- A Run of the subject `ada`, who may remember. -/
def rememberingRun (runId threadId message : String) : RunRecord :=
  submittedRun runId "acme" threadId "travel" "1" "travel" "1" [("user_message", .str message)]
    none (some ⟨"acme", "ada", ["tools:execute", "memory:read", "memory:write"]⟩) none "09:00"
    "09:00"

def sampleClarification : Json :=
  .obj [("decision_type", .str "REQUEST_CLARIFICATION"), ("question", .str "when?"),
    ("reason", .str "dates are missing")]

/-- A Run is submitted and claimed, and its first attempt goes on until its memory is written. -/
def rememberOnce (worker : Nat) (run : RunRecord) (duration : Int) (text : String) : List Label :=
  [.control (sampleReading 0 text) (.run (.createRunWithEvent run "run.queued" [])),
    .claim (sampleReading 1 text) "w" duration, .work worker (.flag false)] ++
  List.replicate 10 (storeStep worker text) ++
  [.work worker (.planner (.ok sampleClarification))] ++ List.replicate 10 (storeStep worker text)

/-- A worker claims the expired Run and writes its memory again. -/
def rememberAgain (worker : Nat) : List Label :=
  [.claim (sampleReading 40000 "l") "w" 30, .work worker (.flag false)] ++
  List.replicate 9 (.work worker (.store (sampleReading 40001 "c") none))

/-- The first attempt of `run_a` crashes after its write, and a recovered attempt repeats it. -/
def sampleRepetition : List Label :=
  rememberOnce 0 (rememberingRun "run_a" "trip" "avoid red-eye flights") 30 "a" ++ [.crash 0] ++
    rememberAgain 1

/-- After the crash another Run stores another value. -/
def sampleOtherWrite : List Label :=
  rememberOnce 0 (rememberingRun "run_a" "trip" "avoid red-eye flights") 30 "a" ++ [.crash 0] ++
    rememberOnce 1 (rememberingRun "run_b" "tour" "red-eye flights are fine") 3600 "b"

/-- The memory that both sample messages speak of. -/
def redEyeMemory : MemoryKey :=
  ⟨"acme", "ada", "travel", .preference, TravelMemoryPolicy.avoidRedEyeKey⟩

/-- The values of the ACTIVE rows. -/
def activeValues (db : Database) : List (Option String × Json) :=
  (db.memoryRecords.rows.filter fun entry ↦ entry.2.status == .active).map
    fun entry ↦ (entry.2.sourceRunId, entry.2.value)

set_option maxRecDepth 10000 in
theorem repeated_memory_is_written_once :
    createdCount ((systemMachine sampleHasher memoryManager).run System.init
        sampleRepetition).world.db "run_a" redEyeMemory = 1 ∧
      ∀ runId memory, createdCount ((systemMachine sampleHasher memoryManager).run System.init
        sampleRepetition).world.db runId memory ≤ 1 := by
  have hadmits : (systemMachine sampleHasher memoryManager).Admits
      (fun system label ↦ keepsFirstWrites system label = true) System.init sampleRepetition := by
    decide +kernel
  have hwritten : createdCount ((systemMachine sampleHasher memoryManager).run System.init
      sampleRepetition).world.db "run_a" redEyeMemory = 1 := by decide +kernel
  exact ⟨hwritten,
    (memory_writes_take_effect_once sampleHasher memoryManager sampleRepetition hadmits).1⟩

set_option maxRecDepth 10000 in
/-- The recovered attempt of `run_a` creates its memory a second time, over the value that `run_b`
stored in between. -/
theorem recovered_attempt_overwrites :
    activeValues ((systemMachine sampleHasher memoryManager).run System.init
        sampleOtherWrite).world.db = [(some "run_b", .bool false)] ∧
      activeValues ((systemMachine sampleHasher memoryManager).run System.init
        (sampleOtherWrite ++ rememberAgain 2)).world.db = [(some "run_a", .bool true)] ∧
      createdCount ((systemMachine sampleHasher memoryManager).run System.init
        (sampleOtherWrite ++ rememberAgain 2)).world.db "run_a" redEyeMemory = 2 := by
  decide +kernel

end AgentRuntime.Execution
