import AgentRuntime.Execution.ReportedOutcome

/-!
# The steps of a Run form a chain

A step is claimed after the earlier ones were completed, so the ledger of a Run reads as one chain
of calls, however many attempts wrote it. An action ends with its step, so an external write that is
open, failed or of unknown outcome stands at the end of the chain: no attempt called another tool
after it.
-/

set_option autoImplicit false
set_option relaxedAutoImplicit false

namespace AgentRuntime.Execution

open Library Store

/-- The steps of a Run are the calls `1..count`. Each was decided and allowed, all before the last
one are completed, and an action of theirs that did not succeed is that of the last step. -/
structure Chain (db : Database) (runId : String) (count : Nat) : Prop where
  steps : ∀ stepId, (db.toolCalls.find (runId, stepId)).isSome = true ↔
    ∃ index, 1 ≤ index ∧ index ≤ count ∧ stepId = callStepId index
  decided : ∀ index row, db.toolCalls.find (runId, callStepId index) = some row →
    (∃ decision, DecisionRecorded db runId index (.callTool decision) ∧
      row.toolName = decision.toolName) ∧ StepAllowed db runId (callStepId index)
  completed : ∀ index, 1 ≤ index → index < count → StepCompleted db runId (callStepId index)
  writes : ∀ stepId action, db.externalActions.find (runId, stepId) = some action →
    action.status ≠ .succeeded → stepId = callStepId count

section Chain

variable {manager : RuntimeManager} {claims : List RunLeaseClaim} {db : Database} {runId : String}

/-- A completed step's action has succeeded. -/
theorem Sound.succeeded_of_completed (hsound : Sound manager claims db) {stepId : String}
    {action : ExternalActionRow} (hcompleted : StepCompleted db runId stepId)
    (hfind : db.externalActions.find (runId, stepId) = some action) :
    action.status = .succeeded := by
  obtain ⟨step, hparent, hagrees⟩ := (hsound.evidence.ledger.rows _ action hfind).parent
  obtain ⟨found, hfound, hstatus⟩ := hcompleted
  obtain rfl : found = step := Option.some.inj (hfound.symm.trans hparent)
  by_contra hne
  have hother : found.status = .running ∨ found.status = .failed := by
    cases hrow : action.status with
    | prepared | dispatching => exact .inl (hagrees.open_running (by rw [hrow]; rfl))
    | failed => exact .inr (hagrees.unsuccessful.mp (.inl hrow)).1
    | outcomeUnknown => exact .inr (hagrees.unsuccessful.mp (.inr hrow)).1
    | succeeded => exact (hne hrow).elim
  rcases hother with hrunning | hfailed
  · rw [hstatus] at hrunning
    cases hrunning
  · rw [hstatus] at hfailed
    cases hfailed

/-- The number of the last step. -/
theorem Sound.exists_last (hsound : Sound manager claims db) (hone : OneRuntime manager claims)
    (runId : String) :
    ∃ count, (∀ index row, db.toolCalls.find (runId, callStepId index) = some row →
        1 ≤ index ∧ index ≤ count) ∧
      (1 ≤ count → (db.toolCalls.find (runId, callStepId count)).isSome = true) := by
  by_cases hnone : ∀ index, db.toolCalls.find (runId, callStepId index) = none
  · refine ⟨0, fun index row hfind ↦ ?_, fun hpos ↦ by omega⟩
    rw [hnone index] at hfind
    cases hfind
  · push Not at hnone
    obtain ⟨first, hfirst⟩ := hnone
    obtain ⟨firstRow, hfirst⟩ := Option.ne_none_iff_exists'.mp hfirst
    obtain ⟨tool, htool, hstep, -⟩ := hsound.steps runId _ firstRow hfirst
    let present (index : Nat) : Prop :=
      (db.toolCalls.find (runId, callStepId index)).isSome = true
    -- One loop serves the Run, and its limit bounds the indices.
    have hlimit (index : Nat) (row : ToolCallRow)
        (hfind : db.toolCalls.find (runId, callStepId index) = some row) :
        1 ≤ index ∧ index ≤ tool.loop.maxToolCalls := by
      obtain ⟨other, hother, hotherStep, -⟩ := hsound.steps runId _ row hfind
      have hindex : index = other.index := callStepId_injective hotherStep
      rw [hindex, htool.loop_eq hother hone]
      exact hother.limit
    have hpresent : present first := by
      show (db.toolCalls.find (runId, callStepId first)).isSome = true
      rw [hfirst]
      rfl
    refine ⟨Nat.findGreatest present tool.loop.maxToolCalls, fun index row hfind ↦ ?_, fun _ ↦ ?_⟩
    · obtain ⟨hpos, hle⟩ := hlimit index row hfind
      refine ⟨hpos, Nat.le_findGreatest hle ?_⟩
      show (db.toolCalls.find (runId, callStepId index)).isSome = true
      rw [hfind]
      rfl
    · exact Nat.findGreatest_spec (hlimit first firstRow hfirst).2 hpresent

/-- A sound ledger is a chain. -/
theorem Sound.chain (hsound : Sound manager claims db) (hone : OneRuntime manager claims)
    (runId : String) : ∃ count, Chain db runId count := by
  obtain ⟨count, hbound, hlast⟩ := hsound.exists_last hone runId
  have hcompleted (index : Nat) (hpos : 1 ≤ index) (hlt : index < count) :
      StepCompleted db runId (callStepId index) := by
    obtain ⟨row, hfind⟩ := Option.isSome_iff_exists.mp (hlast (by omega))
    exact hsound.order runId count row hfind index hpos hlt
  refine ⟨count, ?_⟩
  constructor
  case steps =>
    intro stepId
    constructor
    · intro hsome
      obtain ⟨row, hfind⟩ := Option.isSome_iff_exists.mp hsome
      obtain ⟨tool, htool, rfl, -⟩ := hsound.steps runId stepId row hfind
      obtain ⟨hpos, hle⟩ := hbound tool.index row hfind
      exact ⟨tool.index, hpos, hle, rfl⟩
    · rintro ⟨index, hpos, hle, rfl⟩
      by_cases heq : index = count
      · subst heq
        exact hlast hpos
      · obtain ⟨row, hfind, -⟩ := hcompleted index hpos (by omega)
        rw [hfind]
        rfl
  case decided =>
    intro index row hfind
    obtain ⟨tool, htool, hstep, hname⟩ := hsound.steps runId _ row hfind
    obtain rfl : index = tool.index := callStepId_injective hstep
    exact ⟨⟨tool.decision, htool.decided, hname⟩, htool.allowed⟩
  case completed => exact hcompleted
  case writes =>
    intro stepId action hfind hopen
    obtain ⟨step, hparent, -⟩ := (hsound.evidence.ledger.rows _ action hfind).parent
    obtain ⟨tool, htool, rfl, -⟩ := hsound.steps runId stepId step hparent
    obtain ⟨hpos, hle⟩ := hbound tool.index step hparent
    by_contra hne
    have hlt : tool.index < count :=
      Nat.lt_of_le_of_ne hle fun heq ↦ hne (by rw [ToolCall.stepId, heq])
    exact hopen (hsound.succeeded_of_completed (hcompleted tool.index hpos hlt) hfind)

/-- A step after the chain was never decided to be a call, once the loop ended. -/
theorem Chain.all_completed {count : Nat} (hchain : Chain db runId count)
    (hended : LoopEnded db runId) {index : Nat} (hpos : 1 ≤ index) (hle : index ≤ count) :
    StepCompleted db runId (callStepId index) := by
  by_cases hlt : index < count
  · exact hchain.completed index hpos hlt
  · obtain ⟨last, decision, hcompleted, hdecided, hnoCall⟩ := hended
    by_cases hbefore : index ≤ last
    · exact hcompleted index hpos hbefore
    · -- The step after the last observation would stand on a decision to call a tool.
      exfalso
      have hsome := (hchain.steps (callStepId (last + 1))).mpr
        ⟨last + 1, by omega, by omega, rfl⟩
      obtain ⟨row, hfind⟩ := Option.isSome_iff_exists.mp hsome
      obtain ⟨⟨call, hcall, -⟩, -⟩ := hchain.decided (last + 1) row hfind
      exact hnoCall call (hdecided.unique hcall)

end Chain

/-- The ledger of every Run is a chain of calls. After every run, however attempts crashed and were
taken over, the steps of a Run are numbered without gaps, each was decided and allowed, and all but
the last are completed; an external write that did not succeed is the last thing the Run did; and
when the Run is COMPLETED or its execution READY or BLOCKED, every step is completed. -/
theorem steps_form_a_chain (hasher : Hasher) (manager : RuntimeManager)
    (labels : List Label)
    (hadmits : (systemMachine hasher manager).Admits FreshLeases System.init labels) :
    let db := ((systemMachine hasher manager).run System.init labels).world.db
    ∀ runId, ∃ count, Chain db runId count ∧
      ((∃ run, db.runs.find runId = some run ∧ run.status = .completed) ∨
          ExecutionConcluded db runId →
        ∀ stepId row, db.toolCalls.find (runId, stepId) = some row → row.status = .completed) := by
  intro db runId
  have hinv := attemptInv_run hadmits
  obtain ⟨count, hchain⟩ := hinv.sound.chain hinv.one runId
  refine ⟨count, hchain, fun hended stepId row hfind ↦ ?_⟩
  have hloop : LoopEnded db runId := by
    rcases hended with ⟨run, hrun, hcompleted⟩ | hconcluded
    · exact loopsEnded_run hadmits runId run hrun hcompleted
    · exact hinv.sound.concluded runId hconcluded
  obtain ⟨index, hpos, hle, rfl⟩ := (hchain.steps stepId).mp (by rw [hfind]; rfl)
  obtain ⟨found, hfound, hstatus⟩ := hchain.all_completed hloop hpos hle
  rw [hfind] at hfound
  rw [Option.some.inj hfound, hstatus]

set_option maxRecDepth 10000 in
/-- The denied action of `sampleFailure` is that of the last step of its Run. -/
theorem denied_action_is_last :
    let db := ((systemMachine sampleHasher sampleManager).run System.init sampleFailure).world.db
    (db.externalActions.find ("run_1", "call-0001")).map ExternalActionRow.status =
        some .failed ∧
      ∃ count, Chain db "run_1" count ∧ "call-0001" = callStepId count := by
  intro db
  have hadmits : (systemMachine sampleHasher sampleManager).Admits FreshLeases System.init
      sampleFailure := by decide +kernel
  have hrow : (db.externalActions.find ("run_1", "call-0001")).map ExternalActionRow.status =
      some .failed := by decide +kernel
  obtain ⟨action, hfind, hstatus⟩ := Option.map_eq_some_iff.mp hrow
  obtain ⟨count, hchain, -⟩ := steps_form_a_chain sampleHasher sampleManager sampleFailure hadmits
    "run_1"
  exact ⟨hrow, count, hchain, hchain.writes "call-0001" action hfind (by rw [hstatus]; decide)⟩

end AgentRuntime.Execution
