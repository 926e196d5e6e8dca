import AgentRuntime.Store.RunTransitions

/-!
# What a plan id stands for

The id of a resolution plan is a digest of the Run, its checkpoint, the event of its quarantine and
its whole workflow ledger. When the digests collide on nothing, two databases that yield the same id
agree on all of it (`of_planMaterial`). Each kind of row is first shown to be determined by the
material that enters the hash.
-/

set_option autoImplicit false
set_option relaxedAutoImplicit false

namespace AgentRuntime.Store

open Library

/-- The digests have no collisions. -/
structure Hasher.Injective (hasher : Hasher) : Prop where
  canonical : Function.Injective hasher.canonicalHash
  state : Function.Injective hasher.stateHash

/-! ### Columns -/

@[simp] theorem json_nat_inj (left right : Nat) :
    Json.nat left = Json.nat right ↔ left = right := by
  simp only [Json.nat, Json.int.injEq]
  omega

@[simp] theorem textColumn_inj (left right : Option String) :
    textColumn left = textColumn right ↔ left = right := by
  cases left <;> cases right <;> simp [textColumn, Json.ofOption]

@[simp] theorem jsonColumn_inj (left right : Option Json) :
    jsonColumn left = jsonColumn right ↔ left = right := by
  cases left <;> cases right <;> simp [jsonColumn, Json.ofOption]

@[simp] theorem natColumn_inj (left right : Option Nat) :
    Json.ofOption Json.nat left = Json.ofOption Json.nat right ↔ left = right := by
  cases left <;> cases right <;> simp only [Json.ofOption, json_nat_inj, Option.some.injEq]
  · simp [Json.nat]
  · simp [Json.nat]

@[simp] theorem RunStatus.text_inj (left right : RunStatus) :
    left.text = right.text ↔ left = right := by
  cases left <;> cases right <;> decide

@[simp] theorem WorkflowStatus.text_inj (left right : WorkflowStatus) :
    left.text = right.text ↔ left = right := by
  cases left <;> cases right <;> decide

@[simp] theorem ToolCallStatus.text_inj (left right : ToolCallStatus) :
    left.text = right.text ↔ left = right := by
  cases left <;> cases right <;> decide

@[simp] theorem ExternalActionStatus.text_inj (left right : ExternalActionStatus) :
    left.text = right.text ↔ left = right := by
  cases left <;> cases right <;> decide

@[simp] theorem ExternalActionRetryMode.text_inj (left right : ExternalActionRetryMode) :
    left.text = right.text ↔ left = right := by
  cases left <;> cases right <;> decide

/-! ### Rows -/

theorem executionMaterial_inj {runId : String} {left right : ExecutionRow}
    (heq : executionMaterial runId left = executionMaterial runId right) : left = right := by
  simp only [executionMaterial, Json.obj.injEq, List.cons.injEq, Prod.mk.injEq, Json.str.injEq,
    WorkflowStatus.text_inj, jsonColumn_inj, textColumn_inj, true_and, and_true] at heq
  cases left
  cases right
  simpa using heq

theorem stepMaterial_inj {runId : String} {left right : String × ToolCallRow}
    (heq : stepMaterial runId left.1 left.2 = stepMaterial runId right.1 right.2) :
    left = right := by
  obtain ⟨stepId, row⟩ := left
  obtain ⟨otherId, other⟩ := right
  simp only [stepMaterial, Json.obj.injEq, List.cons.injEq, Prod.mk.injEq, Json.str.injEq,
    ToolCallStatus.text_inj, jsonColumn_inj, textColumn_inj, json_nat_inj, true_and,
    and_true] at heq
  cases row
  cases other
  simp_all

theorem actionMaterial_inj {runId : String} {left right : String × ExternalActionRow}
    (heq : actionMaterial runId left.1 left.2 = actionMaterial runId right.1 right.2) :
    left = right := by
  obtain ⟨stepId, row⟩ := left
  obtain ⟨otherId, other⟩ := right
  simp only [actionMaterial, Json.obj.injEq, List.cons.injEq, Prod.mk.injEq, Json.str.injEq,
    ExternalActionStatus.text_inj, ExternalActionRetryMode.text_inj, jsonColumn_inj,
    textColumn_inj, json_nat_inj, true_and, and_true] at heq
  cases row
  cases other
  simp_all

theorem eventMaterial_inj {left right : EventRow × Nat}
    (heq : eventMaterial left = eventMaterial right) : left = right := by
  obtain ⟨event, index⟩ := left
  obtain ⟨other, otherIndex⟩ := right
  simp only [eventMaterial, Json.obj.injEq, List.cons.injEq, Prod.mk.injEq, Json.str.injEq,
    json_nat_inj, true_and, and_true] at heq
  cases event
  cases other
  simp_all

/-! ### Evidence -/

/-- The workflow rows of a Run, as the queries of a plan return them. -/
structure SameEvidence (runId : String) (db after : Database) : Prop where
  execution : after.executions.find runId = db.executions.find runId
  steps : stepRows after runId = stepRows db runId
  actions : actionRows after runId = actionRows db runId
  events : eventRows after.workflowEvents runId = eventRows db.workflowEvents runId

theorem workflowEvidenceFingerprint_congr {hasher : Hasher} {runId : String} {db after : Database}
    (hsame : SameEvidence runId db after) :
    workflowEvidenceFingerprint hasher after runId =
      workflowEvidenceFingerprint hasher db runId := by
  unfold workflowEvidenceFingerprint
  rw [hsame.execution, hsame.steps, hsame.actions, hsame.events]

theorem sameEvidence_of_fingerprint {hasher : Hasher} (hinjective : hasher.Injective)
    {runId : String} {db after : Database}
    (heq : workflowEvidenceFingerprint hasher after runId =
      workflowEvidenceFingerprint hasher db runId) : SameEvidence runId db after := by
  have hmaterial := hinjective.canonical heq
  simp only [Json.obj.injEq, List.cons.injEq, Prod.mk.injEq, Json.arr.injEq, true_and,
    and_true] at hmaterial
  obtain ⟨hexecution, hsteps, hactions, hevents⟩ := hmaterial
  refine ⟨?_, ?_, ?_, ?_⟩
  · cases hleft : after.executions.find runId <;> cases hright : db.executions.find runId <;>
      rw [hleft, hright] at hexecution
    · cases hexecution
    · cases hexecution
    · exact congrArg some (executionMaterial_inj hexecution)
  · exact List.map_injective_iff.mpr (fun _ _ ↦ stepMaterial_inj) hsteps
  · exact List.map_injective_iff.mpr (fun _ _ ↦ actionMaterial_inj) hactions
  · exact List.map_injective_iff.mpr (fun _ _ ↦ eventMaterial_inj) hevents

/-- The revision and the content of a checkpoint. -/
def checkpointContent (db : Database) (tenantId threadId : String) : Nat × Option StateJson :=
  (threadRevision db tenantId threadId,
    (db.threadStates.find (tenantId, threadId)).map ThreadStateRow.stateJson)

theorem checkpointEvidenceFingerprint_congr {hasher : Hasher} {tenantId threadId : String}
    {db after : Database}
    (hsame : checkpointContent after tenantId threadId = checkpointContent db tenantId threadId) :
    checkpointEvidenceFingerprint hasher after tenantId threadId =
      checkpointEvidenceFingerprint hasher db tenantId threadId := by
  obtain ⟨hrevision, hstate⟩ := Prod.mk.inj hsame
  have hhash : (after.threadStates.find (tenantId, threadId)).map
      (fun row ↦ hasher.stateHash row.stateJson) =
        (db.threadStates.find (tenantId, threadId)).map
          fun row ↦ hasher.stateHash row.stateJson := by
    have hmapped := congrArg (Option.map hasher.stateHash) hstate
    rwa [Option.map_map, Option.map_map] at hmapped
  simp only [checkpointEvidenceFingerprint, hrevision, hhash]

theorem checkpointContent_of_fingerprint {hasher : Hasher} (hinjective : hasher.Injective)
    {tenantId threadId : String} {db after : Database}
    (heq : checkpointEvidenceFingerprint hasher after tenantId threadId =
      checkpointEvidenceFingerprint hasher db tenantId threadId) :
    checkpointContent after tenantId threadId = checkpointContent db tenantId threadId := by
  have hmaterial := hinjective.canonical heq
  simp only [Json.obj.injEq, List.cons.injEq, Prod.mk.injEq, json_nat_inj, textColumn_inj,
    true_and, and_true] at hmaterial
  obtain ⟨hrevision, hstate⟩ := hmaterial
  refine Prod.ext hrevision ?_
  have hmapped : ((after.threadStates.find (tenantId, threadId)).map
      ThreadStateRow.stateJson).map hasher.stateHash =
        ((db.threadStates.find (tenantId, threadId)).map ThreadStateRow.stateJson).map
          hasher.stateHash := by
    rw [Option.map_map, Option.map_map]
    exact hstate
  exact Option.map_injective hinjective.state hmapped

/-! ### Plans -/

/-- The columns of a Run that a plan id covers. -/
structure SamePlannedRun (row now : RunRow) : Prop where
  status : now.status = row.status
  errorCode : now.errorCode = row.errorCode
  attempt : now.attempt = row.attempt
  cancelRequested : now.cancelRequested = row.cancelRequested
  base : now.checkpointBaseRevision = row.checkpointBaseRevision
  updatedAt : now.updatedAt = row.updatedAt

theorem targetJson_inj {left right : QuarantineResolutionTarget}
    (heq : targetJson left = targetJson right) : left = right := by
  cases left <;> cases right <;> simp_all [targetJson]

/-- What two plans under one id agree on. -/
theorem of_planMaterial {hasher : Hasher} (hinjective : hasher.Injective) {db after : Database}
    {runId otherRun tenantId otherTenant : String} {row now : RunRow}
    {target other : QuarantineResolutionTarget}
    {resolution otherResolution : QuarantineResolutionKind}
    (hrun : target.identifier = runId) (hother : other.identifier = otherRun)
    (heq : hasher.canonicalHash (planMaterial hasher after otherRun otherTenant now other
        otherResolution) =
      hasher.canonicalHash (planMaterial hasher db runId tenantId row target resolution)) :
    otherRun = runId ∧ otherTenant = tenantId ∧ other = target ∧ otherResolution = resolution ∧
      SamePlannedRun row now ∧
      threadRevision after otherTenant now.threadId = threadRevision db tenantId row.threadId ∧
      checkpointEvidenceFingerprint hasher after otherTenant now.threadId =
        checkpointEvidenceFingerprint hasher db tenantId row.threadId ∧
      SameEvidence runId db after := by
  have hmaterial := hinjective.canonical heq
  simp only [planMaterial, Json.obj.injEq, List.cons.injEq, Prod.mk.injEq, Json.str.injEq,
    Json.int.injEq, Json.bool.injEq, json_nat_inj, textColumn_inj, natColumn_inj,
    RunStatus.text_inj, true_and, and_true] at hmaterial
  obtain ⟨htenant, htarget, ⟨hstatus, hcode, hattempt, hflag, hbase, htime, -⟩,
    ⟨hrevision, hcheckpoint⟩, -, hworkflow, -⟩ := hmaterial
  obtain rfl := targetJson_inj htarget
  obtain rfl := hother.symm.trans hrun
  refine ⟨rfl, htenant, rfl, ?_, ⟨hstatus, hcode, hattempt, hflag, hbase, htime⟩, hrevision,
    hcheckpoint, sameEvidence_of_fingerprint hinjective hworkflow⟩
  cases otherResolution
  cases resolution
  rfl

/-- What an eligible plan was derived from. -/
structure PlannedOn (hasher : Hasher) (db : Database) (runId tenantId : String)
    (target : QuarantineResolutionTarget) (resolution : QuarantineResolutionKind)
    (plan : QuarantineResolutionPlan) (row : RunRow) : Prop where
  identifier : target.identifier = runId
  find : db.runs.find runId = some row
  tenant : row.tenantId = tenantId
  reasons : ineligibilityReasons db runId tenantId row = []
  planId : plan.planId = some ("qrp_" ++
    hasher.canonicalHash (planMaterial hasher db runId tenantId row target resolution))

theorem plannedOn_of_derive {hasher : Hasher} {db : Database} {runId tenantId : String}
    {target : QuarantineResolutionTarget} {resolution : QuarantineResolutionKind}
    {plan : QuarantineResolutionPlan}
    (hplan : deriveQuarantinePlan hasher db runId tenantId target resolution = .ok plan)
    (heligible : plan.eligible = true) :
    ∃ row, PlannedOn hasher db runId tenantId target resolution plan row := by
  unfold deriveQuarantinePlan at hplan
  split_ifs at hplan with htarget
  split at hplan
  · cases hplan
  · next row hrow =>
    obtain rfl := Except.ok.inj hplan
    obtain ⟨hfind, htenant⟩ := (findRunForTenant_eq_some_iff db runId tenantId row).mp hrow
    exact ⟨row, not_not.mp htarget, hfind, htenant, List.isEmpty_iff.mp heligible,
      if_pos heligible⟩

theorem derive_target_resolution {hasher : Hasher} {db : Database} {runId tenantId : String}
    {target : QuarantineResolutionTarget} {resolution : QuarantineResolutionKind}
    {plan : QuarantineResolutionPlan}
    (hplan : deriveQuarantinePlan hasher db runId tenantId target resolution = .ok plan) :
    plan.target = target ∧ plan.resolution = resolution := by
  unfold deriveQuarantinePlan at hplan
  split_ifs at hplan
  split at hplan
  · cases hplan
  · obtain rfl := Except.ok.inj hplan
    exact ⟨rfl, rfl⟩

end AgentRuntime.Store
