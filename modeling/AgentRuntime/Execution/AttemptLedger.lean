import AgentRuntime.Execution.RunRecords

/-!
# An attempt that holds its lease

While an attempt holds the lease of its Run, nobody else writes evidence there. What it looked up is
current (`Current`), so what its conduct rests on is not only in its history but in the ledger:
`Authorized` becomes `Stands`, `Warranted` becomes an action in the status that the code tells of,
and a call that the conduct allows is `Permitted` (`permitted_of_mayCall`).
-/

set_option autoImplicit false
set_option relaxedAutoImplicit false

namespace AgentRuntime.Execution

open Library Store

/-! ### Reading a history -/

/-- Every deed of the history says what holds of the ledger. -/
def Attested (runId : String) (history : History) (db : Database) : Prop :=
  ∀ deed ∈ history, Attests runId deed db

section Reading

variable {runId stepId eventType evidenceId : String} {payload : Payload} {history : History}
  {db : Database}

theorem Attested.recorded (hattested : Attested runId history db)
    (hevidenced : Evidenced runId eventType evidenceId payload history) :
    Recorded db runId eventType evidenceId payload := by
  cases hevidenced with
  | seen events hdeed hfirst =>
    exact firstEvidence_of_prefix ((hattested _ hdeed).look events rfl) hfirst
  | recorded token event fields hpayload hdeed =>
    subst hpayload
    exact (hattested _ hdeed).append eventType evidenceId fields token event rfl

theorem Attested.reports {status : ExternalActionStatus} (hattested : Attested runId history db)
    (hreports : Reports runId stepId status history) (hterminal : status.isTerminal = true) :
    ActionIn db runId stepId status := by
  obtain ⟨deed, hdeed, ⟨row, hshows, rfl⟩ | hsettles⟩ := hreports
  · obtain ⟨now, hfind, -, hfinal⟩ := (hattested deed hdeed).action stepId row hshows
    exact ⟨now, hfind, by rw [hfinal hterminal]⟩
  · exact (hattested deed hdeed).settled stepId status hsettles

theorem Attested.done (hattested : Attested runId history db)
    (hdone : StepDone runId stepId history) : StepCompleted db runId stepId := by
  have hself (deed : Deed) : deed ∈ [deed] := List.mem_singleton_self deed
  cases hdone with
  | seen deed row hdeed hshows hcompleted =>
    exact (hattested deed hdeed).done stepId (.seen deed row (hself deed) hshows hcompleted)
  | cached toolName inputHash maxAttempts token reply houtcome hdeed =>
    exact (hattested _ hdeed).done stepId
      (.cached toolName inputHash maxAttempts token reply houtcome (hself _))
  | completed attempt result token row hdeed =>
    exact (hattested _ hdeed).done stepId (.completed attempt result token row (hself _))
  | settled deed hdeed hsettles =>
    exact (hattested deed hdeed).done stepId (.settled deed (hself deed) hsettles)

theorem Attested.observed {count : Nat} (hattested : Attested runId history db)
    (hobserved : Observed runId count history) {index : Nat} (hpos : 1 ≤ index)
    (hle : index ≤ count) : StepCompleted db runId (callStepId index) := by
  obtain ⟨rows, hdeed, hlater⟩ := hobserved
  by_cases hlisted : index ≤ completedCount rows
  · exact (hattested _ hdeed).listed rows rfl index hpos hlisted
  · exact hattested.done (hlater index (by omega) hle)

theorem Attested.concluded (hattested : Attested runId history db)
    (hconcluded : Concluded runId history) : LoopEnded db runId := by
  have hself (deed : Deed) : deed ∈ [deed] := List.mem_singleton_self deed
  cases hconcluded with
  | seen deed row hdeed hshows hstatus =>
    exact (hattested deed hdeed).concluded (.seen deed row (hself deed) hshows hstatus)
  | ready result token row hdeed =>
    exact (hattested _ hdeed).concluded (.ready result token row (hself _))
  | blocked result code token row hdeed =>
    exact (hattested _ hdeed).concluded (.blocked result code token row (hself _))

end Reading

/-! ### Current knowledge -/

/-- The history holds no sign of another attempt that recorded evidence. -/
def Uncontested (runId : String) (history : History) : Prop :=
  ∀ eventType ∈ mirroredEventTypes, ∀ evidenceId,
    ¬ Contested runId eventType evidenceId history

/-- The deed passed the fence with the lease of the claim. -/
def Deed.PassedWith (claim : RunLeaseClaim) (deed : Deed) : Prop :=
  ∃ (call : WorkflowCall) (reply : call.Reply), deed = .workflow call (.ok reply) ∧
    call.lease = some (claim.run.runId, some claim.leaseToken)

/-- What an attempt knows while it holds its lease. -/
structure Current (claim : RunLeaseClaim) (history : History) (db : Database) : Prop where
  looked : HoldsLease db claim.run.runId claim.leaseToken → ∀ before events between,
    history = before ++ Deed.look claim.run.runId events :: between →
    (∀ deed ∈ between, deed.isStore = false) → ∀ eventType ∈ mirroredEventTypes, ∀ evidenceId,
      firstEvidence (workflowLog db claim.run.runId) eventType evidenceId =
        firstEvidence events eventType evidenceId
  uncontested : HoldsLease db claim.run.runId claim.leaseToken →
    Uncontested claim.run.runId history
  passed : ∀ before deed, before ++ [deed] <+: history → deed.PassedWith claim →
    Uncontested claim.run.runId before

section Standing

variable {manager : RuntimeManager} {claim : RunLeaseClaim} {claims : List RunLeaseClaim}
  {history : History} {db : Database}

theorem Decided.recorded {index : Nat} {decision : PlannerDecision}
    (hdecided : Decided claim.run.runId index decision history)
    (hattested : Attested claim.run.runId history db)
    (huncontested : Uncontested claim.run.runId history) :
    DecisionRecorded db claim.run.runId index decision := by
  rcases hdecided with ⟨payload, hdecision, hevidenced⟩ | hcontested
  · exact ⟨payload, hattested.recorded hevidenced, hdecision⟩
  · exact (huncontested _ (by decide) _ hcontested).elim

theorem firstEvidence_mem {events : List EventRow} {eventType evidenceId : String}
    {payload : Payload} (hfirst : firstEvidence events eventType evidenceId = some payload) :
    ∃ event ∈ events, event.eventType = eventType ∧ event.payload = payload := by
  obtain ⟨event, hfind, rfl⟩ := Option.map_eq_some_iff.mp hfirst
  have htype := List.find?_some hfind
  rw [Bool.and_eq_true, beq_iff_eq] at htype
  exact ⟨event, List.mem_of_find?_eq_some hfind, htype.1, rfl⟩

theorem Recorded.mem {runId eventType evidenceId : String} {payload : Payload}
    (hrecorded : Recorded db runId eventType evidenceId payload) :
    ∃ event ∈ db.workflowEvents, event.runId = runId ∧ event.eventType = eventType ∧
      event.payload = payload := by
  obtain ⟨event, hmem, htype, hpayload⟩ := firstEvidence_mem hrecorded
  obtain ⟨hmem, hrun⟩ := List.mem_filter.mp hmem
  rw [Bool.and_eq_true, beq_iff_eq] at hrun
  exact ⟨event, hmem, hrun.1, htype, hpayload⟩

theorem PolicyAllowed.stepAllowed {stepId : String}
    (hallowed : PolicyAllowed claim.run.runId stepId history)
    (hattested : Attested claim.run.runId history db) (hsound : Sound manager claims db) :
    StepAllowed db claim.run.runId stepId := by
  obtain ⟨payload, houtcome, hevidenced⟩ := hallowed
  have hrecorded := hattested.recorded hevidenced
  obtain ⟨event, hmem, -, htype, rfl⟩ := hrecorded.mem
  obtain ⟨value, hvalue⟩ := Option.isSome_iff_exists.mp ((hsound.events event hmem).policy htype)
  exact ⟨event.payload, hrecorded, by rw [hvalue, houtcome value hvalue]⟩

/-- An authorized call stands in the ledger. -/
theorem Authorized.stands {call : ToolCall} (hauthorized : Authorized manager claim history call)
    (hclaim : claim ∈ claims) (hattested : Attested claim.run.runId history db)
    (hsound : Sound manager claims db) (huncontested : Uncontested claim.run.runId history) :
    Stands manager claims db claim.run.runId call where
  claimed := ⟨claim, hclaim, rfl, hauthorized.serves⟩
  decided := hauthorized.decided.recorded hattested huncontested
  limit := hauthorized.limit
  registered := hauthorized.registered
  allowed := hauthorized.policy.stepAllowed hattested hsound

/-- No step of a read-only tool carries a code that tells of an external action. -/
theorem ReadOnlyCode.reportedStatus_eq {stepId code : String}
    (hcode : ReadOnlyCode manager claim history stepId code) (hclaim : claim ∈ claims)
    (hone : OneRuntime manager claims) (hattested : Attested claim.run.runId history db)
    (hsound : Sound manager claims db) (huncontested : Uncontested claim.run.runId history) :
    reportedStatus code = none := by
  obtain ⟨deed, hdeed, row, hshows, hrow, hreadOnly⟩ := hcode
  cases hreported : reportedStatus code with
  | none => rfl
  | some status =>
    have hattests := hattested deed hdeed
    have haction := hattests.coded stepId row code hshows hrow (by rw [hreported]; rfl)
    obtain ⟨action, hfind⟩ := Option.isSome_iff_exists.mp haction
    obtain ⟨tool, htool, rfl, hexternal⟩ := hsound.actions _ _ action hfind
    rcases hreadOnly with ⟨loop, spec, hserves, hregistered, heffect⟩ |
      ⟨call, hauthorized, hstep, hinternal⟩
    · -- The step's tool is the tool of the action's call.
      obtain ⟨now, hnow, hsame⟩ := hattests.step _ row hshows
      obtain ⟨other, hother, hotherStep, hname⟩ := hsound.steps _ _ now hnow
      have hexternal' := htool.isExternal_eq hother hone hotherStep
      have hloop : loop = other.loop := hother.serves_eq hclaim hserves hone
      have hspec : spec = other.spec := by
        have hregistry := hother.registered
        rw [← hname, hsame.toolName, ← hloop, hregistered] at hregistry
        exact Option.some.inj hregistry
      rw [hexternal, ToolCall.isExternal, ← hspec, heffect] at hexternal'
      cases hexternal'
    · have hstands := hauthorized.stands hclaim hattested hsound huncontested
      have hsame := hstands.isExternal_eq htool hone hstep
      rw [hinternal, hexternal] at hsame
      cases hsame

theorem StepWarranted.actionIn {stepId code : String} {status : ExternalActionStatus}
    (hwarranted : StepWarranted manager claim history stepId code) (hclaim : claim ∈ claims)
    (hone : OneRuntime manager claims) (hattested : Attested claim.run.runId history db)
    (hsound : Sound manager claims db) (huncontested : Uncontested claim.run.runId history)
    (hreported : reportedStatus code = some status) :
    ActionIn db claim.run.runId stepId status := by
  rcases hwarranted status hreported with hreports | hreadOnly
  · exact hattested.reports hreports (reportedStatus_terminal hreported)
  · rw [hreadOnly.reportedStatus_eq hclaim hone hattested hsound huncontested] at hreported
    cases hreported

theorem holdsLease_of_attempt {runId token : String} {row : RunRow} {reading : Reading}
    (hfind : db.runs.find runId = some row) (hattempt : HoldsAttempt row token reading) :
    HoldsLease db runId token :=
  ⟨row, hfind, ((holdsLease_iff row token reading.nowMs).mp hattempt.2).1⟩

/-- A call that passed its fence with the lease of a claim found the lease current. -/
theorem holdsLease_of_passed {call : WorkflowCall} {reading : Reading} {runId token : String}
    (hpassed : call.PassedFence db reading) (hlease : call.lease = some (runId, some token)) :
    HoldsLease db runId token := by
  obtain ⟨row, hfind, hattempt⟩ := (hpassed runId (some token) hlease).exists_attempt
  exact holdsLease_of_attempt hfind hattempt

/-- A call that the conduct allows and that passes its fence is permitted. -/
theorem permitted_of_mayCall {call : WorkflowCall} {reading : Reading}
    (hmay : MayCall manager claim history call) (hclaim : claim ∈ claims)
    (hone : OneRuntime manager claims) (hattested : Attested claim.run.runId history db)
    (hcurrent : Current claim history db)
    (hsound : Sound manager claims db) (hpassed : call.PassedFence db reading) :
    Permitted manager claims db call := by
  have hheld (hlease : call.lease = some (claim.run.runId, some claim.leaseToken)) :
      Uncontested claim.run.runId history :=
    hcurrent.uncontested (holdsLease_of_passed hpassed hlease)
  have hreadOnly {runId stepId : String} {token : Option String}
      (hrun : runId = claim.run.runId) (htoken : token = some claim.leaseToken)
      (hlease : call.lease = some (runId, token))
      (hcall : ∃ tool : ToolCall, Authorized manager claim history tool ∧ stepId = tool.stepId ∧
        tool.isExternal = false) : ReadOnlyStep manager claims db runId stepId := by
    subst hrun htoken
    obtain ⟨tool, hauthorized, hstep, hinternal⟩ := hcall
    exact ⟨tool, hauthorized.stands hclaim hattested hsound (hheld hlease), hstep, hinternal⟩
  cases call with
  | finalizeReady | finalizeBlocked =>
    obtain ⟨rfl, rfl, count, decision, hobserved, hdecided, hnoCall⟩ := hmay
    exact ⟨count, decision, fun index hpos hle ↦ hattested.observed hobserved hpos hle,
      hdecided.recorded hattested (hheld rfl), hnoCall⟩
  | reuseCompletedStep => exact hmay
  | claimStep =>
    obtain ⟨rfl, rfl, tool, hauthorized, hstep, htool, -, hattempts, hobserved⟩ := hmay
    refine ⟨tool, hauthorized.stands hclaim hattested hsound (hheld rfl), hstep, htool,
      fun hexternal ↦ ?_, fun index hpos hlt ↦ hattested.observed hobserved hpos (by omega)⟩
    rw [hattempts, if_pos hexternal]
  | completeStep | recoverInterruptedStep =>
    obtain ⟨hrun, htoken, hcall⟩ := hmay
    exact hreadOnly hrun htoken rfl hcall
  | failStep =>
    obtain ⟨hrun, htoken, hcode, hcall⟩ := hmay
    exact ⟨hreadOnly hrun htoken rfl hcall, hcode⟩
  | prepareExternalAction =>
    obtain ⟨rfl, rfl, tool, hauthorized, hstep, -, hexternal⟩ := hmay
    exact ⟨tool, hauthorized.stands hclaim hattested hsound (hheld rfl), hstep, hexternal⟩
  | appendEvent runId eventType payload token =>
    obtain ⟨rfl, rfl, happend⟩ := hmay
    refine ⟨happend.mirrored, fun event hrun htype hpayload ↦ ?_⟩
    subst htype hpayload
    refine ⟨happend.decision, happend.policy, fun hresult stepId code status hstep hcode
      hreported ↦ ?_, fun hresult stepId hstep hstatus ↦ ?_⟩
    · rw [hrun]
      exact (happend.result hresult stepId code hstep hcode).actionIn hclaim hone hattested hsound
        (hheld rfl) hreported
    · rw [hrun]
      exact (happend.completed hresult stepId hstep hstatus).imp hattested.done
        fun hreports ↦ hattested.reports hreports rfl
  | _ => trivial

end Standing

end AgentRuntime.Execution
