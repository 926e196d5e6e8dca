import AgentRuntime.Store.EvidenceCheck
import AgentRuntime.Execution.AttemptSystem
import AgentRuntime.Execution.DefinitiveFailure

/-!
# The operator's check and the writers of the evidence

The attempts keep the ledger in order (`AttemptInv.sound`), whatever crashes, recoveries, retries
and stale finalizations there were. So the operator's check accepts every ledger they write once its
actions are terminal, and since it compares every column with an event, it rejects the ledger when
one of them is changed.
-/

set_option autoImplicit false
set_option relaxedAutoImplicit false

namespace AgentRuntime.Execution

open Library Store

/-- The operator's check is exact. After every run, the check accepts the evidence of a Run whose
actions are all terminal, so the evidence is no reason against a resolution of its quarantine; and
it rejects the evidence of a Run if a column of one of its terminal actions or of the action's step
is changed, or if an event that reports their end is deleted or repeated. -/
theorem evidence_check_is_exact (hasher : Hasher) (manager : RuntimeManager) (labels : List Label)
    (hfresh : (systemMachine hasher manager).Admits FreshLeases System.init labels) :
    let db := ((systemMachine hasher manager).run System.init labels).world.db
    ∀ runId run, db.runs.find runId = some run →
      ((∃ stepId action, db.externalActions.find (runId, stepId) = some action) →
        (∀ stepId action, db.externalActions.find (runId, stepId) = some action →
          action.status.isTerminal = true) →
        terminalExternalActionEvidenceIsConsistent db runId run.tenantId = true ∧
          "external_action_evidence_inconsistent" ∉
            ineligibilityReasons db runId run.tenantId run) ∧
      ∀ stepId action after, db.externalActions.find (runId, stepId) = some action →
        action.status.isTerminal = true → Tampering db runId stepId action after →
          terminalExternalActionEvidenceIsConsistent after runId run.tenantId = false := by
  intro db runId run hrun
  have horder : EvidenceInOrder db := (attemptInv_run hfresh).sound.evidence
  constructor
  · intro hsome hterminal
    have hconsistent := horder.consistent hrun hsome hterminal
    exact ⟨hconsistent, not_inconsistent_of_consistent hconsistent⟩
  · intro stepId action after hfind hterminal htampering
    exact horder.rejects hfind hterminal htampering

set_option maxRecDepth 10000 in
/-- The check accepts the ledger of a denied action, and not with another count of dispatches. -/
theorem denied_action_is_accepted :
    let db := ((systemMachine sampleHasher sampleManager).run System.init sampleDenial).world.db
    terminalExternalActionEvidenceIsConsistent db "run_1" "acme" = true ∧
      ∃ action, db.externalActions.find ("run_1", "call-0001") = some action ∧
        terminalExternalActionEvidenceIsConsistent
          { db with
            externalActions := db.externalActions.modify ("run_1", "call-0001")
              fun _ ↦ { action with dispatchCount := 2 } } "run_1" "acme" = false := by
  intro db
  have hfresh : (systemMachine sampleHasher sampleManager).Admits FreshLeases System.init
      sampleDenial := by decide +kernel
  have htenant : (db.runs.find "run_1").map RunRow.tenantId = some "acme" := by decide +kernel
  obtain ⟨run, hrun, htenant⟩ := Option.map_eq_some_iff.mp htenant
  have hrows : db.externalActions.rows.map
      (fun entry ↦ (entry.1, entry.2.status, entry.2.dispatchCount)) =
        [(("run_1", "call-0001"), .failed, 1)] := by decide +kernel
  have hdenied (stepId : String) (action : ExternalActionRow)
      (hfind : db.externalActions.find ("run_1", stepId) = some action) :
      action.status = .failed ∧ action.dispatchCount = 1 := by
    have hmem := List.mem_map_of_mem (f := fun entry ↦
      (entry.1, entry.2.status, entry.2.dispatchCount)) ((Table.mem_rows_iff _ _ _).mpr hfind)
    rw [hrows, List.mem_singleton] at hmem
    exact Prod.mk.inj (Prod.mk.inj hmem).2
  have hterminal (stepId : String) (action : ExternalActionRow)
      (hfind : db.externalActions.find ("run_1", stepId) = some action) :
      action.status.isTerminal = true := by
    rw [(hdenied stepId action hfind).1]
    rfl
  have hsome : (db.externalActions.find ("run_1", "call-0001")).isSome = true := by
    decide +kernel
  obtain ⟨action, hfind⟩ := Option.isSome_iff_exists.mp hsome
  obtain ⟨haccepts, hrejects⟩ :=
    evidence_check_is_exact sampleHasher sampleManager sampleDenial hfresh "run_1" run hrun
  rw [htenant] at haccepts hrejects
  refine ⟨(haccepts ⟨_, action, hfind⟩ hterminal).1, action, hfind, ?_⟩
  refine hrejects _ action _ hfind (hterminal _ action hfind) (.action _ (.dispatchCount 2 ?_))
  rw [(hdenied _ action hfind).2]
  decide

end AgentRuntime.Execution
