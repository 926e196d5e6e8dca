import AgentRuntime.Travel.DynamicTravelRuntime

/-!
# Retrieved memory does not leak into the thread

A conversation is a sequence of turns on one thread: each starts from the checkpoint that the one
before committed, and may see any snapshot, decision and tool result. `restorePreferences` undoes
the overlay: what it returns only depends on the keys that are not laid over
(`restorePreferences_congr`), so the preferences of a checkpoint are those that the messages alone
lead to (`Parsed`). Every other field that a turn could have set is reset by the next one, and two
conversations of the same messages go on with the same program (`checkpoint_independent`).
-/

set_option autoImplicit false
set_option relaxedAutoImplicit false

namespace AgentRuntime.Travel

open Library Store Execution

/-! ### Undoing the overlay -/

/-- What `restore_checkpoint_preferences` makes of one field. -/
def restoredField (original : Payload) (keys : List String) (field : String × Json) :
    Option (String × Json) :=
  if field.1 ∈ keys then (original.get? field.1).map fun value ↦ (field.1, value) else some field

/-- Every original key is still there. -/
def Covers (preferences original : Payload) : Prop :=
  ∀ key ∈ original.map Prod.fst, key ∈ preferences.map Prod.fst

theorem Covers.set {preferences original : Payload} (hcovers : Covers preferences original)
    (key : String) (value : Json) : Covers (preferences.set key value) original := by
  intro other hother
  rw [set_keys]
  split_ifs
  · exact hcovers other hother
  · exact List.mem_append_left _ (hcovers other hother)

theorem Covers.updated {preferences original : Payload} (hcovers : Covers preferences original)
    (updates : Payload) : Covers (updated preferences updates) original := by
  unfold Travel.updated
  induction updates generalizing preferences with
  | nil => exact hcovers
  | cons field rest ih => exact ih (hcovers.set field.1 field.2)

/-- One key of `restore_checkpoint_preferences`, field by field. -/
theorem restoreKey_eq {preferences original : Payload} (hcovers : Covers preferences original)
    (key : String) :
    restoreKey original preferences key = preferences.filterMap (restoredField original [key]) := by
  have hother (field : String × Json) (hne : field.1 ≠ key) :
      restoredField original [key] field = some field := by
    simp [restoredField, hne]
  unfold restoreKey
  cases horiginal : original.get? key with
  | none =>
    rw [← List.filterMap_eq_filter]
    refine List.filterMap_congr fun field _ ↦ ?_
    by_cases hkey : field.1 = key
    · simp [restoredField, hkey, horiginal, Option.guard]
    · simp [hother field hkey, hkey, Option.guard]
  | some value =>
    have hpresent : (preferences.get? key).isSome = true := by
      rw [get?_isSome_iff]
      refine hcovers key ((get?_isSome_iff _ _).1 ?_)
      rw [horiginal]
      rfl
    simp only [Payload.set, hpresent, if_true]
    rw [← List.filterMap_eq_map]
    refine List.filterMap_congr fun field _ ↦ ?_
    by_cases hkey : field.1 = key
    · simp [restoredField, hkey, horiginal]
    · simp [hother field hkey, hkey]

theorem Covers.restoreKey {preferences original : Payload} (hcovers : Covers preferences original)
    (key : String) : Covers (restoreKey original preferences key) original := by
  unfold Travel.restoreKey
  cases horiginal : original.get? key with
  | some value => exact hcovers.set key value
  | none =>
    intro other hother
    have hne : other ≠ key := by
      rintro rfl
      rw [← get?_isSome_iff, horiginal] at hother
      cases hother
    obtain ⟨field, hfield, rfl⟩ := List.mem_map.1 (hcovers other hother)
    exact List.mem_map_of_mem (List.mem_filter.2 ⟨hfield, by simpa using hne⟩)

theorem restoredField_cons (original : Payload) (key : String) (rest : List String)
    (field : String × Json) :
    (restoredField original [key] field).bind (restoredField original rest) =
      restoredField original (key :: rest) field := by
  by_cases hkey : field.1 = key
  · cases horiginal : original.get? key with
    | none => simp [restoredField, hkey, horiginal]
    | some value => simp [restoredField, hkey, horiginal]
  · simp [restoredField, hkey]

/-- The whole of `restore_checkpoint_preferences`, field by field. -/
theorem restorePreferences_eq {preferences original : Payload}
    (hcovers : Covers preferences original) :
    restorePreferences original preferences =
      preferences.filterMap (restoredField original supportedStateKeys) := by
  unfold restorePreferences
  generalize supportedStateKeys = keys
  induction keys generalizing preferences with
  | nil =>
    have hall : restoredField original [] = some := by
      funext field
      simp [restoredField]
    simp [hall]
  | cons key rest ih =>
    rw [List.foldl_cons, ih (hcovers.restoreKey key), restoreKey_eq hcovers,
      List.filterMap_filterMap]
    exact List.filterMap_congr fun field _ ↦ restoredField_cons original key rest field

/-- A key that is laid over is restored whatever was set under it. -/
theorem restorePreferences_set_supported {preferences original : Payload} {key : String}
    (hcovers : Covers preferences original) (hkey : key ∈ supportedStateKeys) (value : Json) :
    restorePreferences original (preferences.set key value) =
      restorePreferences original preferences := by
  rw [restorePreferences_eq (hcovers.set key value), restorePreferences_eq hcovers]
  unfold Payload.set
  split_ifs with hpresent
  · rw [List.filterMap_map]
    refine List.filterMap_congr fun field _ ↦ ?_
    by_cases hfield : field.1 = key
    · simp [restoredField, hfield, hkey]
    · simp [hfield]
  · have hgone : original.get? key = none := by
      rw [← Option.not_isSome_iff_eq_none, get?_isSome_iff]
      exact fun horiginal ↦ hpresent ((get?_isSome_iff _ _).2 (hcovers key horiginal))
    simp [restoredField, hkey, hgone]

/-- Any other key is kept as it was set. -/
theorem restorePreferences_set_other {preferences original : Payload} {key : String}
    (hcovers : Covers preferences original) (hkey : key ∉ supportedStateKeys) (value : Json) :
    restorePreferences original (preferences.set key value) =
      (restorePreferences original preferences).set key value := by
  rw [restorePreferences_eq (hcovers.set key value), restorePreferences_eq hcovers]
  have hpresent : (Payload.get? (preferences.filterMap
      (restoredField original supportedStateKeys)) key).isSome = (preferences.get? key).isSome := by
    rw [Bool.eq_iff_iff, get?_isSome_iff, get?_isSome_iff, List.mem_map, List.mem_map]
    constructor
    · rintro ⟨field, hfield, rfl⟩
      obtain ⟨before, hbefore, hrestored⟩ := List.mem_filterMap.1 hfield
      refine ⟨before, hbefore, ?_⟩
      unfold restoredField at hrestored
      split_ifs at hrestored
      · obtain ⟨_, _, rfl⟩ := Option.map_eq_some_iff.1 hrestored
        rfl
      · exact congrArg Prod.fst (Option.some.inj hrestored)
    · rintro ⟨field, hfield, rfl⟩
      exact ⟨field, List.mem_filterMap.2 ⟨field, hfield, by simp [restoredField, hkey]⟩, rfl⟩
  unfold Payload.set
  rw [hpresent]
  split_ifs
  · rw [List.filterMap_map, List.map_filterMap]
    refine List.filterMap_congr fun field _ ↦ ?_
    by_cases hfield : field.1 = key
    · simp [restoredField, hfield, hkey]
    · have hkept : ∀ restored, restoredField original supportedStateKeys field = some restored →
          restored.1 = field.1 := by
        intro restored hrestored
        unfold restoredField at hrestored
        split_ifs at hrestored
        · obtain ⟨_, _, rfl⟩ := Option.map_eq_some_iff.1 hrestored
          rfl
        · exact congrArg Prod.fst (Option.some.inj hrestored).symm
      cases hrestored : restoredField original supportedStateKeys field with
      | none => simp [hfield, hrestored]
      | some restored => simp [hfield, hrestored, hkept restored hrestored]
  · simp [restoredField, hkey]

/-- Updates do not tell preferences apart that are restored to the same. -/
theorem restorePreferences_congr {left right original : Payload} (hleft : Covers left original)
    (hright : Covers right original)
    (hsame : restorePreferences original left = restorePreferences original right)
    (updates : Payload) :
    restorePreferences original (updated left updates) =
      restorePreferences original (updated right updates) := by
  unfold updated
  induction updates generalizing left right with
  | nil => exact hsame
  | cons field rest ih =>
    refine ih (hleft.set field.1 field.2) (hright.set field.1 field.2) ?_
    by_cases hkey : field.1 ∈ supportedStateKeys
    · rw [restorePreferences_set_supported hleft hkey,
        restorePreferences_set_supported hright hkey, hsame]
    · rw [restorePreferences_set_other hleft hkey, restorePreferences_set_other hright hkey, hsame]

/-- Memories are laid over supported keys only, so that restoring takes them off again. -/
theorem restorePreferences_applyAll {preferences original merged : Payload}
    {memories : List RetrievedMemory} (hcovers : Covers preferences original)
    (hmerged : TravelMemoryPolicy.applyAll preferences memories = .ok merged) :
    Covers merged original ∧
      restorePreferences original merged = restorePreferences original preferences := by
  induction memories generalizing preferences with
  | nil =>
    obtain rfl : preferences = merged := Except.ok.inj hmerged
    exact ⟨hcovers, rfl⟩
  | cons memory rest ih =>
    unfold TravelMemoryPolicy.applyAll at hmerged
    split at hmerged
    · next stateKey _ hkey =>
      split_ifs at hmerged
      have hsupported : stateKey ∈ supportedStateKeys := by
        obtain ⟨before, after, hkeys, -⟩ := List.lookup_eq_some_iff.1 hkey
        exact List.mem_map.2 ⟨(memory.key, stateKey), by simp [hkeys], rfl⟩
      obtain ⟨hstill, hsame⟩ := ih (hcovers.set stateKey memory.value) hmerged
      exact ⟨hstill, hsame.trans (restorePreferences_set_supported hcovers hsupported _)⟩
    · cases hmerged

/-- What a supported key is restored to. -/
theorem get?_restorePreferences {preferences original : Payload} {key : String}
    (hcovers : Covers preferences original) (hkey : key ∈ supportedStateKeys) :
    (restorePreferences original preferences).get? key = original.get? key := by
  rw [restorePreferences_eq hcovers]
  have hvalue : ∀ field ∈ preferences.filterMap (restoredField original supportedStateKeys),
      field.1 = key → original.get? key = some field.2 := by
    rintro field hfield rfl
    obtain ⟨before, -, hrestored⟩ := List.mem_filterMap.1 hfield
    unfold restoredField at hrestored
    split_ifs at hrestored with hsupported
    · obtain ⟨value, horiginal, rfl⟩ := Option.map_eq_some_iff.1 hrestored
      exact horiginal
    · exact (hsupported (Option.some.inj hrestored ▸ hkey)).elim
  cases hfound : (preferences.filterMap (restoredField original supportedStateKeys)).find?
      fun field ↦ field.1 = key with
  | some field =>
    have hsame : field.1 = key := by simpa using List.find?_some hfound
    rw [hvalue field (List.mem_of_find?_eq_some hfound) hsame]
    simp [Payload.get?, Json.lookup, hfound]
  | none =>
    have habsent : original.get? key = none := by
      by_contra hpresent
      obtain ⟨value, horiginal⟩ := Option.ne_none_iff_exists'.1 hpresent
      have hmem : key ∈ preferences.map Prod.fst :=
        hcovers key ((get?_isSome_iff _ _).1 (by rw [horiginal]; rfl))
      obtain ⟨field, hfield, rfl⟩ := List.mem_map.1 hmem
      have hrestored : (field.1, value) ∈
          preferences.filterMap (restoredField original supportedStateKeys) :=
        List.mem_filterMap.2 ⟨field, hfield, by simp [restoredField, hkey, horiginal]⟩
      exact List.find?_eq_none.1 hfound _ hrestored (by simp)
    rw [habsent]
    simp [Payload.get?, Json.lookup, hfound]

/-! ### Turns -/

/-- Two states that the next turn cannot tell apart: they agree on all that `_prepare_state` does
not reset. -/
structure Resumes (left right : AgentState) : Prop where
  threadId : left.threadId = right.threadId
  executionTrace : left.executionTrace = right.executionTrace
  destination : left.destination = right.destination
  days : left.days = right.days
  budget : left.budget = right.budget
  preferences : left.preferences = right.preferences
  retryCount : left.retryCount = right.retryCount

namespace DynamicTravelRuntime

variable {runtime : DynamicTravelRuntime}

theorem prepareState_congr {left right : AgentState} (hsame : Resumes left right)
    (message : String) : runtime.prepareState left message =
      runtime.prepareState right message := by
  obtain ⟨hthread, htrace, hdestination, hdays, hbudget, hpreferences, hretries⟩ := hsame
  simp [prepareState, hthread, htrace, hdestination, hdays, hbudget, hpreferences, hretries]

/-- Memories are laid over two such states alike. -/
theorem applyMemories_congr {left right : AgentState} (hsame : Resumes left right)
    (memories : List RetrievedMemory) :
    (∃ failure, left.applyMemories memories = .error failure ∧
      right.applyMemories memories = .error failure) ∨
    ∃ merged other, left.applyMemories memories = .ok merged ∧
      right.applyMemories memories = .ok other ∧ Resumes merged other := by
  obtain ⟨hthread, htrace, hdestination, hdays, hbudget, hpreferences, hretries⟩ := hsame
  cases left
  cases right
  subst hpreferences
  unfold AgentState.applyMemories
  dsimp only at *
  split
  · next failure _ => exact .inl ⟨failure, rfl, rfl⟩
  · next preferences _ =>
    exact .inr ⟨_, _, rfl, rfl, hthread, htrace, hdestination, hdays, hbudget, rfl, hretries⟩

/-- What follows the overlay, if it does not tell two such states apart, goes on alike. -/
theorem overlaid_congr {left right : AgentState} {β : Type} {rest : AgentState → Runtime β}
    (hsame : Resumes left right)
    (hrest : ∀ merged other, Resumes merged other → rest merged = rest other)
    (context : RuntimeExecutionContext) (timestamp : String) :
    (((runtime.overlaid left context timestamp).widen Op.plain_of_quiet).widen
        Op.runtime_of_plain).bind rest =
      (((runtime.overlaid right context timestamp).widen Op.plain_of_quiet).widen
        Op.runtime_of_plain).bind rest := by
  unfold overlaid
  split_ifs with hgoverned
  · simp only [Program.bind_eq_bind, Program.widen_bind, Program.bind_bind]
    congr 1
    funext snapshot
    rcases applyMemories_congr hsame snapshot.memories with
      ⟨failure, hleft, hright⟩ | ⟨merged, other, hleft, hright, hmerged⟩
    · rw [hleft, hright]
    · rw [hleft, hright]
      exact hrest _ _ { hmerged with
        executionTrace := congrArg (· ++ [_]) hmerged.executionTrace }
  · exact hrest left right hsame

/-- The next turn runs the same program from two such states. -/
theorem execute_congr {left right : AgentState} (hsame : Resumes left right)
    (runtimeInput : Payload) (context : RuntimeExecutionContext) (stamps : TraceStamps) :
    runtime.execute left runtimeInput context stamps =
      runtime.execute right runtimeInput context stamps := by
  unfold execute
  rw [hsame.preferences]
  refine overlaid_congr hsame (fun merged other hmerged ↦ ?_) context stamps.memoryContextApplied
  rw [prepareState_congr hmerged]

/-- A turn: the message is executed from one checkpoint, whatever the stores, the planner and the
tools answer, and the state it returns is committed as the next checkpoint. -/
def Turn (runtime : DynamicTravelRuntime) (before : AgentState) (runtimeInput : Payload)
    (after : AgentState) : Prop :=
  ∃ context stamps response,
    (runtime.execute before runtimeInput context stamps).Returns response ∧
      after = response.state.projectThreadCheckpoint

/-- The turns of a thread, from a first checkpoint to the one that the last turn committed. -/
def Conversation (runtime : DynamicTravelRuntime) : List Payload → AgentState → AgentState → Prop
  | [], start, checkpoint => start = checkpoint
  | input :: rest, start, checkpoint =>
    ∃ next, runtime.Turn start input next ∧ Conversation runtime rest next checkpoint

/-- The checkpoint that a message leads to without memories, plans and tools. -/
def parsedOnly (runtime : DynamicTravelRuntime) (before : AgentState) (runtimeInput : Payload) :
    AgentState :=
  ((runtime.prepareState before (TravelMemoryPolicy.userMessage runtimeInput)
    ).restoreCheckpointPreferences before.preferences).projectThreadCheckpoint

/-- What a turn returns only differs from the prepared state in what the next turn resets. -/
theorem concluded_resumes {prepared state : AgentState} {result : DynamicLoopResult}
    (hconcluded : runtime.concluded prepared result = .ok state) : Resumes state prepared := by
  unfold concluded at hconcluded
  split at hconcluded
  · obtain rfl := Except.ok.inj hconcluded
    constructor <;> rfl
  · cases hitinerary : runtime.itineraryOf result with
    | error failure =>
      rw [hitinerary] at hconcluded
      cases hconcluded
    | ok itinerary =>
      rw [hitinerary] at hconcluded
      obtain rfl := Except.ok.inj hconcluded
      constructor <;> rfl

/-- The prepared state of a turn is that of its checkpoint, with the preferences of an overlay that
restoring takes off again. -/
structure Overlaid (state merged : AgentState) : Prop where
  threadId : merged.threadId = state.threadId
  destination : merged.destination = state.destination
  days : merged.days = state.days
  budget : merged.budget = state.budget
  retryCount : merged.retryCount = state.retryCount
  covers : Covers merged.preferences state.preferences
  restored : restorePreferences state.preferences merged.preferences =
    restorePreferences state.preferences state.preferences

theorem overlaid_returns {state merged : AgentState} {context : RuntimeExecutionContext}
    {timestamp : String} (hreturns : (runtime.overlaid state context timestamp).Returns merged) :
    Overlaid state merged := by
  unfold overlaid at hreturns
  split_ifs at hreturns
  · obtain ⟨snapshot, -, hrest⟩ := Program.returns_bind hreturns
    split at hrest
    · next applied happlied =>
      obtain rfl : _ = merged := hrest
      unfold AgentState.applyMemories at happlied
      split at happlied
      · cases happlied
      · next preferences hpreferences =>
        obtain rfl := Except.ok.inj happlied
        obtain ⟨hcovers, hrestored⟩ :=
          restorePreferences_applyAll (fun _ hkey ↦ hkey) hpreferences
        exact ⟨rfl, rfl, rfl, rfl, rfl, hcovers, hrestored⟩
    · exact hrest.elim
  · obtain rfl : state = merged := hreturns
    exact ⟨rfl, rfl, rfl, rfl, rfl, fun _ hkey ↦ hkey, rfl⟩

/-- A turn leads where its message alone leads. -/
theorem Turn.resumes {before after : AgentState} {input : Payload}
    (hgoverned : runtime.governedMemory = true) (hturn : runtime.Turn before input after) :
    Resumes after (runtime.parsedOnly before input) := by
  obtain ⟨context, stamps, response, hreturns, rfl⟩ := hturn
  obtain ⟨merged, hmerged, hrest⟩ := Program.returns_bind hreturns
  have hover := overlaid_returns (Program.returns_widen (Program.returns_widen hmerged))
  obtain ⟨result, -, hremember⟩ := Program.returns_bind hrest
  obtain ⟨-, -, hlast⟩ := Program.returns_bind hremember
  split at hlast
  · exact hlast.elim
  · next updated hconcluded =>
    obtain rfl : _ = response := hlast
    have hsame := concluded_resumes hconcluded
    have hrestored := restorePreferences_congr hover.covers (fun _ hkey ↦ hkey) hover.restored
      (runtime.preferenceParser (TravelMemoryPolicy.userMessage input))
    simp only [withoutOverlay, hgoverned, if_true]
    exact
      { threadId := hsame.threadId.trans hover.threadId
        executionTrace := rfl
        destination := hsame.destination.trans (congrArg (Option.or _) hover.destination)
        days := hsame.days.trans (congrArg (Option.or _) hover.days)
        budget := hsame.budget.trans (congrArg (Option.or _) hover.budget)
        preferences :=
          (congrArg (restorePreferences before.preferences) hsame.preferences).trans hrestored
        retryCount := hsame.retryCount.trans hover.retryCount }

theorem parsedOnly_congr {left right : AgentState} (hsame : Resumes left right)
    (input : Payload) : runtime.parsedOnly left input = runtime.parsedOnly right input := by
  unfold parsedOnly
  rw [prepareState_congr hsame, hsame.preferences]

/-- Turns of one message from two checkpoints that the turn cannot tell apart. -/
theorem Turn.congr {left right after other : AgentState} {input : Payload}
    (hgoverned : runtime.governedMemory = true) (hsame : Resumes left right)
    (hleft : runtime.Turn left input after) (hright : runtime.Turn right input other) :
    Resumes after other := by
  have hafter := hleft.resumes hgoverned
  have hother := hright.resumes hgoverned
  rw [parsedOnly_congr hsame] at hafter
  exact
    { threadId := hafter.threadId.trans hother.threadId.symm
      executionTrace := hafter.executionTrace.trans hother.executionTrace.symm
      destination := hafter.destination.trans hother.destination.symm
      days := hafter.days.trans hother.days.symm
      budget := hafter.budget.trans hother.budget.symm
      preferences := hafter.preferences.trans hother.preferences.symm
      retryCount := hafter.retryCount.trans hother.retryCount.symm }

/-- A turn leaves the supported preferences as the thread had them. -/
theorem Turn.preserves {before after : AgentState} {input : Payload} {key : String}
    (hgoverned : runtime.governedMemory = true) (hturn : runtime.Turn before input after)
    (hkey : key ∈ supportedStateKeys) :
    after.preferences.get? key = before.preferences.get? key := by
  rw [(hturn.resumes hgoverned).preferences]
  have hcovers : Covers before.preferences before.preferences := fun _ hother ↦ hother
  exact get?_restorePreferences (hcovers.updated _) hkey

/-- Two conversations of the same messages. -/
theorem Conversation.resumes {inputs : List Payload} {start begun left right : AgentState}
    (hgoverned : runtime.governedMemory = true) (hsame : Resumes start begun)
    (hleft : runtime.Conversation inputs start left)
    (hright : runtime.Conversation inputs begun right) : Resumes left right := by
  induction inputs generalizing start begun with
  | nil =>
    obtain rfl : start = left := hleft
    obtain rfl : begun = right := hright
    exact hsame
  | cons input rest ih =>
    obtain ⟨next, hturn, hrest⟩ := hleft
    obtain ⟨other, hother, hlast⟩ := hright
    exact ih (hturn.congr hgoverned hsame hother) hrest hlast

theorem Conversation.preserves {inputs : List Payload} {start checkpoint : AgentState}
    {key : String} (hgoverned : runtime.governedMemory = true)
    (hconversation : runtime.Conversation inputs start checkpoint)
    (hkey : key ∈ supportedStateKeys) :
    checkpoint.preferences.get? key = start.preferences.get? key := by
  induction inputs generalizing start with
  | nil =>
    obtain rfl : start = checkpoint := hconversation
    rfl
  | cons input rest ih =>
    obtain ⟨next, hturn, hrest⟩ := hconversation
    exact (ih hrest).trans (hturn.preserves hgoverned hkey)

/-- Retrieved memory does not leak into the thread: two conversations of the same messages commit
checkpoints with the same constraints, which keep the supported preferences that the thread started
with, are prepared alike for every next message, and go on with the same program. -/
theorem checkpoint_independent {inputs : List Payload} {start left right : AgentState}
    (hgoverned : runtime.governedMemory = true)
    (hleft : runtime.Conversation inputs start left)
    (hright : runtime.Conversation inputs start right) :
    (left.destination = right.destination ∧ left.days = right.days ∧
      left.budget = right.budget ∧ left.preferences = right.preferences) ∧
    (∀ key ∈ supportedStateKeys,
      left.preferences.get? key = start.preferences.get? key ∧
      right.preferences.get? key = start.preferences.get? key) ∧
    (∀ message, runtime.prepareState left message = runtime.prepareState right message) ∧
    ∀ input context stamps,
      runtime.execute left input context stamps = runtime.execute right input context stamps := by
  have hself : Resumes start start := by constructor <;> rfl
  have hsame := Conversation.resumes hgoverned hself hleft hright
  refine ⟨⟨hsame.destination, hsame.days, hsame.budget, hsame.preferences⟩, ?_, ?_, ?_⟩
  · intro key hkey
    exact ⟨hleft.preserves hgoverned hkey, hright.preserves hgoverned hkey⟩
  · intro message
    exact prepareState_congr hsame message
  · intro input context stamps
    exact execute_congr hsame input context stamps

/-- Patterns that find known destinations only. -/
def barePatterns : TextPatterns where
  lower := id
  destinationMatch := fun _ ↦ none
  daysMatch := fun _ ↦ none
  chineseDaysMatch := fun _ ↦ none
  budgetMatches := []
  parseExplicit := fun _ ↦ ⟨none, none, none⟩

/-- A runtime without tools, with the parser of either kind of preferences. -/
def bareRuntime (legacy : Bool) : DynamicTravelRuntime where
  loop :=
    { toolRegistry := fun _ ↦ none
      toolDescriptors := []
      dispatcher := none
      workflowType := "travel"
      maxToolCalls := 1
      maxToolCalls_pos := le_rfl
      maxDispatches := 2
      sha256 := fun _ ↦ "hash"
      rounds := 1 }
  governedMemory := true
  patterns := barePatterns
  preferenceParser := if legacy then barePatterns.parseLegacy else barePatterns.explicitPreferences
  validatePlan := fun _ ↦ none

/-- The checkpoint of a thread in a stage. -/
def threadState (destination : Option String) (currentStage : String) (blockers : List String) :
    AgentState where
  threadId := "thread"
  executionTrace := []
  destination := destination
  days := none
  budget := none
  preferences := []
  preferences_nodup := List.nodup_nil
  itinerary := none
  toolOutputs := []
  blockers := blockers
  retryCount := 0
  currentStage := currentStage

/-- The message of the turn, in which the legacy parser finds a travel style. -/
def relaxedMessage : Payload := [("user_message", .str "tokyo, relaxed")]

/-- The turn from a new thread, with a snapshot and with the result of a loop that an earlier
attempt finished. -/
theorem bareRuntime_turn (legacy : Bool) :
    (bareRuntime legacy).Turn (threadState none "initialized" []) relaxedMessage
        (threadState (some "Tokyo") "planned" []) ∧
      (bareRuntime legacy).Turn (threadState none "initialized" []) relaxedMessage
        (threadState (some "Tokyo") "needs_clarification" ["when?"]) := by
  let context : RuntimeExecutionContext :=
    ⟨"run", "thread", false, ⟨"tenant", "subject", ["memory:read"]⟩, some "lease"⟩
  let snapshot (memories : List RetrievedMemory) : MemorySnapshot :=
    ⟨"run", "tenant", "subject", "travel", memories, "now"⟩
  let retrieved : EventRow :=
    ⟨"run", 1, "memory.retrieved", [("snapshot_id", .str "run")], "now"⟩
  let execution (result : DynamicLoopResult) : ExecutionClaimResult :=
    ⟨.existing, ⟨"travel", "hash", .ready, some result.dump, none, "now", "now", none⟩⟩
  refine ⟨?planned, ?asked⟩
  case planned =>
    let governed : RetrievedMemory :=
      ⟨"memory", .preference, "flight.avoid_red_eye", .bool true, none, none, 1, 1, "now", none⟩
    cases legacy <;>
      exact ⟨context, ⟨"first", "second", "third"⟩, _, ⟨.ok (snapshot [governed]), .ok [retrieved],
        .ok (execution ⟨.finished, "done", [], [], []⟩), .ok [], rfl⟩, rfl⟩
  case asked =>
    cases legacy <;>
      exact ⟨context, ⟨"first", "second", "third"⟩, _, ⟨.ok (snapshot []), .ok [retrieved],
        .ok (execution ⟨.clarification, "when?", [], [], []⟩), .ok [], rfl⟩, rfl⟩

/-- A snapshot with a memory and an empty one, and two results of the loop, lead to checkpoints that
go on alike, whichever preferences the message sets for the turn. -/
theorem checkpoint_independent_bareRuntime :
    (threadState (some "Tokyo") "planned" []).preferences =
        (threadState (some "Tokyo") "needs_clarification" ["when?"]).preferences ∧
      (∀ input context stamps,
        (bareRuntime true).execute (threadState (some "Tokyo") "planned" []) input context stamps =
          (bareRuntime true).execute (threadState (some "Tokyo") "needs_clarification" ["when?"])
            input context stamps) ∧
      ∀ input context stamps,
        (bareRuntime false).execute (threadState (some "Tokyo") "planned" []) input context stamps =
          (bareRuntime false).execute (threadState (some "Tokyo") "needs_clarification" ["when?"])
            input context stamps := by
  have hplanned (legacy : Bool) : (bareRuntime legacy).Conversation [relaxedMessage]
      (threadState none "initialized" []) (threadState (some "Tokyo") "planned" []) :=
    ⟨_, (bareRuntime_turn legacy).1, rfl⟩
  have hasked (legacy : Bool) : (bareRuntime legacy).Conversation [relaxedMessage]
      (threadState none "initialized" [])
      (threadState (some "Tokyo") "needs_clarification" ["when?"]) :=
    ⟨_, (bareRuntime_turn legacy).2, rfl⟩
  have hlegacy := checkpoint_independent rfl (hplanned true) (hasked true)
  have hexplicit := checkpoint_independent rfl (hplanned false) (hasked false)
  exact ⟨hlegacy.1.2.2.2, hlegacy.2.2.2, hexplicit.2.2.2⟩

end DynamicTravelRuntime

end AgentRuntime.Travel
