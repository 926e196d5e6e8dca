import AgentRuntime.Execution.AttemptAnswers
import AgentRuntime.Execution.AttemptConduct
import AgentRuntime.Execution.EvidenceMirror

/-!
# The attempts of a run of the system

`deeds` notes what each worker performed, so the history of an attempt is a part of the log of the
run. `AttemptInv` holds of the system together with this log: the ledger is sound, each worker obeys
the conduct of its claim, and what its history says is true of the database. One step of an attempt
extends its own history and keeps the histories of the others, because the evidence of a Run is only
recorded by the attempt that holds the lease (`LeftAlone`).
-/

set_option autoImplicit false
set_option relaxedAutoImplicit false

namespace AgentRuntime.Execution

open Library Store

/-! ### Requests of others -/

/-- If the claim's lease is current after a change, it was before, and no evidence was added to the
claim's Run. -/
def LeftAlone (claim : RunLeaseClaim) (db after : Database) : Prop :=
  HoldsLease after claim.run.runId claim.leaseToken →
    HoldsLease db claim.run.runId claim.leaseToken ∧
    ∀ eventType ∈ mirroredEventTypes, ∀ evidenceId,
      firstEvidence (workflowLog after claim.run.runId) eventType evidenceId =
        firstEvidence (workflowLog db claim.run.runId) eventType evidenceId

section LeftAlone

variable {claim : RunLeaseClaim} {history : History} {db after : Database} {reading : Reading}

theorem Current.leftAlone (hcurrent : Current claim history db)
    (halone : LeftAlone claim db after) : Current claim history after where
  looked hheld before events between hhistory hbetween eventType hmirrored evidenceId := by
    obtain ⟨hbefore, hsame⟩ := halone hheld
    rw [hsame eventType hmirrored evidenceId]
    exact hcurrent.looked hbefore before events between hhistory hbetween eventType hmirrored
      evidenceId
  uncontested hheld := hcurrent.uncontested (halone hheld).1
  passed := hcurrent.passed

theorem leftAlone_of_log (hlog : after.workflowEvents = db.workflowEvents)
    (hheld : HoldsLease after claim.run.runId claim.leaseToken →
      HoldsLease db claim.run.runId claim.leaseToken) : LeftAlone claim db after := by
  intro hafter
  refine ⟨hheld hafter, fun eventType _ evidenceId ↦ ?_⟩
  unfold workflowLog Store.listEvents
  rw [hlog]

theorem firstEvidence_eq_none {events : List EventRow} {eventType evidenceId : String}
    (hother : ∀ event ∈ events, event.eventType ≠ eventType) :
    firstEvidence events eventType evidenceId = none := by
  unfold firstEvidence
  rw [Option.map_eq_none_iff, List.find?_eq_none]
  intro event hmem hevidence
  rw [Bool.and_eq_true, beq_iff_eq] at hevidence
  exact hother event hmem hevidence.1

/-- A call of the workflow store adds no evidence to a Run unless it carries the Run's lease. -/
theorem leftAlone_of_workflow {call : WorkflowCall} {reply : call.Reply}
    (hok : call.perform db reading = .ok (reply, after))
    (hother : ∀ eventType payload token,
      call = .appendEvent claim.run.runId eventType payload token →
      ∃ other, token = some other ∧ other ≠ claim.leaseToken) : LeftAlone claim db after := by
  intro hafter
  have hchange := workflowChange_of_perform hok
  have hheld : HoldsLease db claim.run.runId claim.leaseToken := by
    obtain ⟨row, hfind, htoken⟩ := hafter
    rw [(sameRunTables_of_workflow hchange).1] at hfind
    exact ⟨row, hfind, htoken⟩
  refine ⟨hheld, fun eventType hmirrored evidenceId ↦ ?_⟩
  obtain ⟨events, hlog, horigin⟩ := grows_of_workflow hchange
  unfold workflowLog Store.listEvents
  rw [hlog, List.filter_append, firstEvidence_append]
  have hnone : firstEvidence (events.filter fun event ↦
      event.runId == claim.run.runId && decide (0 < event.sequence)) eventType evidenceId =
        none := by
    refine firstEvidence_eq_none fun event hmem htype ↦ ?_
    rw [List.mem_filter, Bool.and_eq_true, beq_iff_eq] at hmem
    obtain ⟨hmem, hrun, -⟩ := hmem
    cases (horigin event hmem).2 with
    | action haction =>
      have hquiet : ∀ eventType ∈ mirroredEventTypes, isActionType eventType = false := by decide
      rw [htype, hquiet _ hmirrored] at haction
      cases haction
    | ledger hledger =>
      have hquiet : ∀ eventType ∈ ledgerEventTypes, eventType ∉ mirroredEventTypes := by decide
      exact hquiet _ hledger (htype ▸ hmirrored)
    | caller token hcall =>
      rw [hrun] at hcall
      obtain ⟨other, rfl, hne⟩ := hother _ _ _ hcall
      have hpassed := holdsLease_of_passed (passedFence_of_perform hok) (by rw [hcall]; rfl)
      exact hne (hpassed.unique hheld)
  rw [hnone, Option.or_none]

end LeftAlone

/-! ### The deed of an attempt -/

section Extend

variable {claim : RunLeaseClaim} {history : History} {deed : Deed} {db after : Database}

/-- A history ends in its last deed. -/
theorem prefix_of_snoc {before : History} {last : Deed}
    (hfront : before ++ [last] <+: history ++ [deed]) :
    before ++ [last] <+: history ∨ before = history ∧ last = deed := by
  rcases List.prefix_concat_iff.mp hfront with heq | hshorter
  · right
    obtain ⟨hbefore, hlast⟩ := List.append_inj' heq rfl
    exact ⟨hbefore, List.cons.inj hlast |>.1⟩
  · exact .inl hshorter

/-- A look that is followed by other operations than store operations, in a longer history. -/
theorem looked_of_snoc {before between : History} {events : List EventRow}
    (hhistory : history ++ [deed] = before ++ Deed.look claim.run.runId events :: between)
    (hbetween : ∀ deed ∈ between, deed.isStore = false) :
    (history = before ∧ deed = Deed.look claim.run.runId events) ∨
      ∃ earlier, history = before ++ Deed.look claim.run.runId events :: earlier ∧
        (∀ deed ∈ earlier, deed.isStore = false) ∧ deed.isStore = false := by
  rcases List.eq_nil_or_concat between with rfl | ⟨earlier, last, rfl⟩
  · obtain ⟨hbefore, hlast⟩ := List.append_inj' hhistory rfl
    exact .inl ⟨hbefore, (List.cons.inj hlast).1⟩
  · right
    rw [List.concat_eq_append] at hhistory hbetween
    rw [← List.cons_append, ← List.append_assoc] at hhistory
    obtain ⟨hbefore, hlast⟩ := List.append_inj' hhistory rfl
    refine ⟨earlier, hbefore, fun deed hmem ↦ hbetween deed ?_, ?_⟩
    · exact List.mem_append_left _ hmem
    · rw [(List.cons.inj hlast).1]
      exact hbetween last (List.mem_append_right _ (List.mem_singleton_self last))

/-- What an attempt knows after a deed of its own. -/
theorem Current.extend (hcurrent : Current claim history db)
    (hheld : HoldsLease after claim.run.runId claim.leaseToken →
      HoldsLease db claim.run.runId claim.leaseToken)
    (hquiet : deed.isStore = false → after = db)
    (hlook : ∀ events, deed = Deed.look claim.run.runId events →
      after = db ∧ events = workflowLog db claim.run.runId)
    (hpassed : deed.PassedWith claim → HoldsLease db claim.run.runId claim.leaseToken) :
    Current claim (history ++ [deed]) after where
  looked hafter before events between hhistory hbetween eventType hmirrored evidenceId := by
    rcases looked_of_snoc hhistory hbetween with ⟨-, hdeed⟩ | ⟨earlier, hearlier, hquietly, hlast⟩
    · obtain ⟨rfl, rfl⟩ := hlook events hdeed
      rfl
    · obtain rfl := hquiet hlast
      exact hcurrent.looked hafter before events earlier hearlier hquietly eventType hmirrored
        evidenceId
  uncontested hafter eventType hmirrored evidenceId := by
    rintro ⟨before, events, between, later, rest, hhistory, hbetween, hnone, hsome⟩
    have hbefore := hheld hafter
    rcases List.eq_nil_or_concat rest with rfl | ⟨earlier, last, rfl⟩
    · obtain ⟨hearlier, hlast⟩ := List.append_inj' hhistory rfl
      obtain ⟨rfl, rfl⟩ := hlook later (List.cons.inj hlast).1
      rw [hcurrent.looked hbefore before events between hearlier hbetween eventType hmirrored
        evidenceId] at hsome
      exact hsome hnone
    · rw [List.concat_eq_append, ← List.cons_append, ← List.append_assoc] at hhistory
      obtain ⟨hearlier, -⟩ := List.append_inj' hhistory rfl
      exact hcurrent.uncontested hbefore eventType hmirrored evidenceId
        ⟨before, events, between, later, earlier, hearlier, hbetween, hnone, hsome⟩
  passed before last hfront hlast := by
    rcases prefix_of_snoc hfront with hshorter | ⟨rfl, rfl⟩
    · exact hcurrent.passed before last hshorter hlast
    · exact hcurrent.uncontested (hpassed hlast)

end Extend

/-! ### One step of an attempt -/

/-- What a deed does to the database. -/
inductive DeedStep (hasher : Hasher) (db after : Database) : Deed → Prop
  | quiet (deed : Deed) (hquiet : deed.isStore = false) (hafter : after = db) :
    DeedStep hasher db after deed
  | refused (call : Call) (failure : Failure) (hafter : after = db) :
    DeedStep hasher db after ⟨.store call, .error failure⟩
  | answered (call : Call) (reading : Reading) (reply : call.Reply)
    (hok : call.perform hasher db reading = .ok (reply, after)) :
    DeedStep hasher db after ⟨.store call, .ok reply⟩
  | interrupted (call : Call) (reading : Reading) (reply : call.Reply) (failure : Failure)
    (hok : call.perform hasher db reading = .ok (reply, after)) :
    DeedStep hasher db after ⟨.store call, .error failure⟩

/-- A deed leaves the database alone or performs its call. -/
theorem DeedStep.cases {hasher : Hasher} {db after : Database} {deed : Deed}
    (hstep : DeedStep hasher db after deed) :
    after = db ∨ ∃ (call : Call) (reading : Reading) (reply : call.Reply),
      deed.op = .store call ∧ call.perform hasher db reading = .ok (reply, after) := by
  cases hstep with
  | quiet _ _ hafter | refused _ _ hafter => exact .inl hafter
  | answered call reading reply hok | interrupted call reading reply _ hok =>
    exact .inr ⟨call, reading, reply, rfl, hok⟩

theorem DeedStep.ages {hasher : Hasher} {db after : Database} {deed : Deed}
    (hstep : DeedStep hasher db after deed) : Ages db after := by
  rcases hstep.cases with rfl | ⟨call, reading, reply, -, hok⟩
  · exact .refl _
  · have happly : Request.apply hasher db ⟨reading, call⟩ = after := apply_of_ok hok
    exact happly ▸ ages_apply _

/-- What the conduct of an attempt rests on. -/
structure Conducted (manager : RuntimeManager) (claim : RunLeaseClaim) (history : History)
    (db : Database) : Prop where
  lawful : ∀ before deed, before ++ [deed] <+: history → MayPerform manager claim before deed.op
  attested : Attested claim.run.runId history db
  current : Current claim history db

section Step

variable {hasher : Hasher} {manager : RuntimeManager} {claims : List RunLeaseClaim}
  {claim other : RunLeaseClaim} {history : History} {deed : Deed} {db after : Database}

theorem conducted_nil (manager : RuntimeManager) (claim : RunLeaseClaim) (db : Database) :
    Conducted manager claim [] db where
  lawful before deed hfront := by simp at hfront
  attested deed hmem := by cases hmem
  current :=
    { looked := fun _ before events between hhistory ↦ by simp at hhistory
      uncontested := by
        rintro - eventType - evidenceId ⟨before, events, between, later, rest, hhistory, -⟩
        simp at hhistory
      passed := fun before deed hfront ↦ by simp at hfront }

theorem Conducted.leftAlone (hconducted : Conducted manager claim history db)
    (hages : Ages db after) (halone : LeftAlone claim db after) :
    Conducted manager claim history after where
  lawful := hconducted.lawful
  attested deed hmem := (hconducted.attested deed hmem).mono hages
  current := hconducted.current.leftAlone halone

/-- An attempt draws no lease. -/
theorem heldBefore_of_step {runId token : String} (hstep : DeedStep hasher db after deed)
    (hmay : MayPerform manager other history deed.op) (hheld : HoldsLease after runId token) :
    HoldsLease db runId token := by
  rcases hstep.cases with rfl | ⟨call, reading, reply, hop, hok⟩
  · exact hheld
  · have happly : Request.apply hasher db ⟨reading, call⟩ = after := apply_of_ok hok
    have hdrawn : Request.drawn ⟨reading, call⟩ = [] := by
      rw [hop] at hmay
      unfold Request.drawn
      split
      · next hcall =>
        dsimp only at hcall
        subst hcall
        exact hmay.elim
      · rfl
    obtain ⟨row, hfind, htoken⟩ := hheld
    rw [← happly] at hfind
    rcases lease_of_apply hfind htoken with ⟨before, hbefore, hlease, -⟩ | hnew
    · exact ⟨before, hbefore, hlease⟩
    · rw [hdrawn] at hnew
      cases hnew

/-- An attempt with another lease leaves the evidence of a claim alone. -/
theorem leftAlone_of_step (hstep : DeedStep hasher db after deed)
    (hmay : MayPerform manager other history deed.op)
    (hne : other.leaseToken ≠ claim.leaseToken) : LeftAlone claim db after := by
  have hheld := fun hafter ↦ @heldBefore_of_step hasher manager other history deed db after
    claim.run.runId claim.leaseToken hstep hmay hafter
  rcases hstep.cases with rfl | ⟨call, reading, reply, hop, hok⟩
  · exact leftAlone_of_log rfl hheld
  · rw [hop] at hmay
    cases call with
    | run call => exact leftAlone_of_log (onlyRunTables_of_run hok).1.2.2.2 hheld
    | memory call => exact leftAlone_of_log (onlyMemory_of_memory hok).2.2.2.2 hheld
    | workflow call =>
      refine leftAlone_of_workflow hok fun eventType payload token hcall ↦ ?_
      subst hcall
      exact ⟨other.leaseToken, hmay.2.1, hne⟩

/-- A deed of an attempt keeps the ledger sound. -/
theorem sound_of_step (hconducted : Conducted manager claim history db)
    (hmay : MayPerform manager claim history deed.op) (hstep : DeedStep hasher db after deed)
    (hclaim : claim ∈ claims) (hone : OneRuntime manager claims)
    (hsound : Sound manager claims db) : Sound manager claims after := by
  rcases hstep.cases with rfl | ⟨call, reading, reply, hop, hok⟩
  · exact hsound
  · rw [hop] at hmay
    have happly : Request.apply hasher db ⟨reading, call⟩ = after := apply_of_ok hok
    cases call with
    | run call => exact happly ▸ hsound.elsewhere (happly ▸ (onlyRunTables_of_run hok).1)
    | memory call => exact happly ▸ hsound.elsewhere (happly ▸ (onlyMemory_of_memory hok).2)
    | workflow call =>
      have hpermitted := permitted_of_mayCall hmay hclaim hone hconducted.attested
        hconducted.current hsound (passedFence_of_perform hok)
      exact sound_of_perform hsound hone hpermitted hok

/-- A deed of an attempt extends its history. -/
theorem Conducted.step (hconducted : Conducted manager claim history db)
    (hmay : MayPerform manager claim history deed.op) (hstep : DeedStep hasher db after deed)
    (hclaim : claim ∈ claims) (hone : OneRuntime manager claims)
    (hsound : Sound manager claims db) : Conducted manager claim (history ++ [deed]) after := by
  have hnext := sound_of_step hconducted hmay hstep hclaim hone hsound
  have hnew : Attests claim.run.runId deed after := by
    cases hstep with
    | quiet _ hquiet =>
      refine attests_of_silent fun call reply hdeed ↦ ?_
      subst hdeed
      cases hquiet
    | refused call failure | interrupted call reading reply failure =>
      refine attests_of_silent fun other reply hdeed ↦ ?_
      cases hdeed
    | answered call reading reply hok =>
      cases call with
      | run call | memory call =>
        refine attests_of_silent fun other reply hdeed ↦ ?_
        cases hdeed
      | workflow call =>
        have hpermitted := permitted_of_mayCall hmay hclaim hone hconducted.attested
          hconducted.current hsound (passedFence_of_perform hok)
        exact attests_of_ok hok hnext hpermitted hmay hconducted.current
  refine ⟨fun before last hfront ↦ ?_, fun other hmem ↦ ?_, ?_⟩
  · rcases prefix_of_snoc hfront with hshorter | ⟨rfl, rfl⟩
    · exact hconducted.lawful before last hshorter
    · exact hmay
  · rcases List.mem_append.mp hmem with hold | hlast
    · exact (hconducted.attested other hold).mono hstep.ages
    · exact List.mem_singleton.mp hlast ▸ hnew
  · refine hconducted.current.extend (heldBefore_of_step hstep hmay) (fun hquiet ↦ ?_)
      (fun events hdeed ↦ ?_) fun hpassed ↦ ?_
    · cases hstep with
      | quiet _ _ hafter => exact hafter
      | _ => cases hquiet
    · cases hstep with
      | quiet _ hquiet => subst hdeed; cases hquiet
      | refused | interrupted => cases hdeed
      | answered call reading reply hok =>
        cases hdeed
        obtain ⟨rfl, rfl⟩ := Prod.mk.inj (Except.ok.inj hok)
        exact ⟨rfl, rfl⟩
    · obtain ⟨call, reply, rfl, hlease⟩ := hpassed
      cases hstep with
      | quiet _ hquiet => cases hquiet
      | answered _ reading _ hok => exact holdsLease_of_passed (passedFence_of_perform hok) hlease

end Step

/-! ### The log of a run -/

/-- What a worker performs in an event. -/
def deeds (hasher : Hasher) (system : System) : Label → List (Nat × Deed)
  | .work worker response =>
    match system.workers worker with
    | some (.call op _ _) =>
      match system.world.perform hasher worker op response with
      | some (answer, _) => [(worker, ⟨op, answer⟩)]
      | none => []
    | _ => []
  | _ => []

/-- What one worker performed. -/
def historyOf (worker : Nat) (log : List (Nat × Deed)) : History :=
  (log.filter fun entry ↦ entry.1 == worker).map Prod.snd

theorem historyOf_snoc (worker other : Nat) (log : List (Nat × Deed)) (deed : Deed) :
    historyOf worker (log ++ [(other, deed)]) =
      if other = worker then historyOf worker log ++ [deed] else historyOf worker log := by
  unfold historyOf
  rw [List.filter_append, List.map_append]
  by_cases heq : other = worker
  · rw [if_pos heq, List.filter_cons_of_pos (by simpa using heq)]
    rfl
  · rw [if_neg heq, List.filter_cons_of_neg (by simpa using heq)]
    exact List.append_nil _

/-- A worker's event: nothing happens, or the worker performs its next operation. -/
theorem work_cases (hasher : Hasher) (system : System) (worker : Nat) (response : Response) :
    (system.work hasher worker response = system ∧
      deeds hasher system (.work worker response) = []) ∨
    ∃ op hscope next answer world, system.workers worker = some (.call op hscope next) ∧
      system.world.perform hasher worker op response = some (answer, world) ∧
      system.work hasher worker response =
        { system with
          world := world
          workers := Function.update system.workers worker (some (next answer)) } ∧
      deeds hasher system (.work worker response) = [(worker, ⟨op, answer⟩)] := by
  cases hworker : system.workers worker with
  | none => exact .inl (by simp [System.work, deeds, hworker])
  | some program =>
    cases program with
    | done value => exact .inl (by simp [System.work, deeds, hworker])
    | raise failure => exact .inl (by simp [System.work, deeds, hworker])
    | call op hscope next =>
      cases hperform : system.world.perform hasher worker op response with
      | none => exact .inl (by simp [System.work, deeds, hworker, hperform])
      | some result =>
        obtain ⟨answer, world⟩ := result
        refine .inr ⟨op, hscope, next, answer, world, rfl, hperform, ?_, ?_⟩
        · simp [System.work, hworker, hperform]
        · simp [deeds, hworker, hperform]

/-- What the world does with an operation of a worker. -/
theorem deedStep_of_perform {hasher : Hasher} {world next : World} {worker : Nat} {op : Op}
    {response : Response} {answer : Except Failure op.Answer}
    (hperform : world.perform hasher worker op response = some (answer, next)) :
    DeedStep hasher world.db next.db ⟨op, answer⟩ ∧ possibleAnswer op answer := by
  cases op with
  | store call =>
    cases response with
    | store reading fault =>
      have hresult : world.performStore hasher worker call reading fault = (answer, next) :=
        Option.some.inj hperform
      unfold World.performStore at hresult
      split at hresult
      · obtain ⟨rfl, rfl⟩ := Prod.mk.inj hresult
        exact ⟨.refused call _ rfl, rfl⟩
      · split at hresult
        · obtain ⟨rfl, rfl⟩ := Prod.mk.inj hresult
          exact ⟨.refused call _ rfl, rfl⟩
        · next reply after hok =>
          split at hresult
          · obtain ⟨rfl, rfl⟩ := Prod.mk.inj hresult
            exact ⟨.interrupted call reading reply _ (by rw [record_db, hok]), rfl⟩
          · obtain ⟨rfl, rfl⟩ := Prod.mk.inj hresult
            exact ⟨.answered call reading reply (by rw [record_db, hok]), trivial⟩
    | _ => cases hperform
  | decide | executeTool | evaluateFinish | enterProvider | awaitProvider | leaseLost
  | runtimeEnded | unfollowed =>
    have hdb : next.db = world.db := by
      rcases db_of_perform hperform with hsame | ⟨call, -, -, hop, -⟩
      · exact hsame
      · cases hop
    refine ⟨.quiet _ rfl hdb, ?_⟩
    first
    | trivial
    | (cases response <;> cases hperform; trivial)

/-! ### The invariant -/

/-- `uuid4` never repeats the text of an earlier lease token. -/
def FreshLeases (system : System) : Label → Prop
  | .claim reading _ _ =>
    "lease_" ++ reading.uuid 0 ∉ system.claims.map RunLeaseClaim.leaseToken
  | _ => True

instance FreshLeases.decidable (system : System) :
    (label : Label) → Decidable (FreshLeases system label)
  | .claim reading _ _ => inferInstanceAs (Decidable
    ("lease_" ++ reading.uuid 0 ∉ system.claims.map RunLeaseClaim.leaseToken))
  | .work .. | .crash _ | .control .. | .applyEffect _ => isTrue trivial

/-- The claimed Run was submitted for the agent that its row names. -/
def SameAgent (row : RunRow) (run : RunRecord) : Prop :=
  row.agentId = run.agentId ∧ row.agentVersion = run.agentVersion ∧
    row.domainId = run.domainId ∧ row.schemaVersion = run.schemaVersion

/-- The Run of a claim is stored, with the agent of the claim while it is active. -/
def Submitted (db : Database) (claim : RunLeaseClaim) : Prop :=
  ∃ row, db.runs.find claim.run.runId = some row ∧
    (row.status.isTerminal = false → SameAgent row claim.run)

/-- What holds of the system and the log of its run. -/
structure AttemptInv (manager : RuntimeManager) (system : System) (log : List (Nat × Deed)) :
    Prop where
  tokens : (system.claims.map RunLeaseClaim.leaseToken).Nodup
  one : OneRuntime manager system.claims
  submitted : ∀ claim ∈ system.claims, Submitted system.world.db claim
  sound : Sound manager system.claims system.world.db
  known : ∀ entry ∈ log, entry.1 < system.claims.length
  conducted : ∀ worker claim, system.claims[worker]? = some claim →
    Conducted manager claim (historyOf worker log) system.world.db
  programs : ∀ worker program, system.workers worker = some program →
    ∃ claim, system.claims[worker]? = some claim ∧
      program.Obeys (conduct manager claim) (fun _ _ ↦ True) (historyOf worker log)

section Invariant

variable {hasher : Hasher} {manager : RuntimeManager} {system : System}
  {log : List (Nat × Deed)}

theorem attemptInv_init (manager : RuntimeManager) : AttemptInv manager System.init [] where
  tokens := List.nodup_nil
  one claim hclaim := by cases hclaim
  submitted claim hclaim := by cases hclaim
  sound := sound_empty manager []
  known entry hmem := by cases hmem
  conducted worker claim hclaim := by cases hclaim
  programs worker program hprogram := by cases hprogram

theorem Submitted.apply {db : Database} {claim : RunLeaseClaim} (hsubmitted : Submitted db claim)
    (request : Request) : Submitted (request.apply hasher db) claim := by
  obtain ⟨row, hfind, hagent⟩ := hsubmitted
  rcases runTables_of_apply hasher db request with htables | ⟨call, -, hchange⟩
  · exact ⟨row, by rw [htables.1, hfind], hagent⟩
  · obtain ⟨later, hlater, hkeeps⟩ := submission_fixed hchange hfind
    refine ⟨later, hlater, fun hactive ↦ ?_⟩
    have hbefore : row.status.isTerminal = false := by
      by_contra hterminal
      rw [Bool.not_eq_false] at hterminal
      rw [terminal_row_fixed hchange hfind hterminal] at hlater
      rw [← Option.some.inj hlater, hterminal] at hactive
      cases hactive
    obtain ⟨hid, hversion, hdomain, hschema⟩ := hagent hbefore
    have hsame := hkeeps.submission hactive
    exact ⟨(congrArg RunSubmission.agentId hsame).trans hid,
      (congrArg RunSubmission.agentVersion hsame).trans hversion,
      (congrArg RunSubmission.domainId hsame).trans hdomain,
      (congrArg RunSubmission.schemaVersion hsame).trans hschema⟩

/-- A request of another process, which leaves the ledger alone and draws no used token. -/
theorem AttemptInv.request (hinv : AttemptInv manager system log) {request : Request}
    (hsame : SameLedger system.world.db (request.apply hasher system.world.db))
    (hdrawn : ∀ token ∈ request.drawn, token ∉ system.claims.map RunLeaseClaim.leaseToken) :
    AttemptInv manager (system.withDatabase (request.apply hasher system.world.db)) log where
  tokens := hinv.tokens
  one := hinv.one
  submitted claim hclaim := (hinv.submitted claim hclaim).apply request
  sound := hinv.sound.elsewhere hsame
  known := hinv.known
  conducted worker claim hclaim := by
    refine (hinv.conducted worker claim hclaim).leftAlone (ages_of_sameLedger hsame)
      (leftAlone_of_log hsame.2.2.2 ?_)
    rintro ⟨row, hfind, htoken⟩
    rcases lease_of_apply hfind htoken with ⟨before, hbefore, hlease, -⟩ | hnew
    · exact ⟨before, hbefore, hlease⟩
    · exact absurd (List.mem_map_of_mem (List.mem_of_getElem? hclaim)) (hdrawn _ hnew)
  programs := hinv.programs

/-- A new attempt starts with an empty history. -/
theorem AttemptInv.started (hinv : AttemptInv manager system log) {claim : RunLeaseClaim}
    {row : RunRow} (hfresh : claim.leaseToken ∉ system.claims.map RunLeaseClaim.leaseToken)
    (hfind : system.world.db.runs.find claim.run.runId = some row)
    (hactive : row.status.isTerminal = false) (hagent : SameAgent row claim.run) :
    AttemptInv manager
      { system with
        workers := Function.update system.workers system.claims.length
          (some (manager.executeOwnedRun claim))
        claims := system.claims ++ [claim] } log := by
  have hempty : historyOf system.claims.length log = [] := by
    unfold historyOf
    rw [List.map_eq_nil_iff, List.filter_eq_nil_iff]
    intro entry hmem heq
    have hlt := hinv.known entry hmem
    rw [beq_iff_eq] at heq
    omega
  have hone (old : RunLeaseClaim) (hold : old ∈ system.claims)
      (hrun : old.run.runId = claim.run.runId) :
      manager.registrationFor old.run = manager.registrationFor claim.run := by
    obtain ⟨found, hfound, hsame⟩ := hinv.submitted old hold
    rw [hrun] at hfound
    obtain rfl : found = row := Option.some.inj (hfound.symm.trans hfind)
    obtain ⟨hid, hversion, hdomain, hschema⟩ := hsame hactive
    unfold RuntimeManager.registrationFor
    rw [← hid, ← hversion, ← hdomain, ← hschema, hagent.1, hagent.2.1, hagent.2.2.1, hagent.2.2.2]
  have hnew {worker : Nat} {other : RunLeaseClaim}
      (hclaim : (system.claims ++ [claim])[worker]? = some other) :
      system.claims[worker]? = some other ∨ worker = system.claims.length ∧ other = claim := by
    by_cases hlt : worker < system.claims.length
    · exact .inl (List.getElem?_append_left hlt ▸ hclaim)
    · rw [List.getElem?_append_right (Nat.le_of_not_lt hlt), List.getElem?_singleton] at hclaim
      split_ifs at hclaim with hzero
      exact .inr ⟨by omega, (Option.some.inj hclaim).symm⟩
  constructor
  case tokens =>
    show ((system.claims ++ [claim]).map RunLeaseClaim.leaseToken).Nodup
    rw [List.map_append, List.nodup_append]
    refine ⟨hinv.tokens, List.nodup_singleton _, fun token hold other hlast heq ↦ ?_⟩
    rw [List.mem_singleton.mp hlast] at heq
    exact hfresh (heq ▸ hold)
  case one =>
    intro first hfirst second hsecond hrun
    rcases List.mem_append.mp hfirst with hold | hlast
    · rcases List.mem_append.mp hsecond with hold' | hlast'
      · exact hinv.one first hold second hold' hrun
      · obtain rfl := List.mem_singleton.mp hlast'
        exact hone first hold hrun
    · obtain rfl := List.mem_singleton.mp hlast
      rcases List.mem_append.mp hsecond with hold' | hlast'
      · exact (hone second hold' hrun.symm).symm
      · rw [List.mem_singleton.mp hlast']
  case submitted =>
    intro other hother
    rcases List.mem_append.mp hother with hold | hlast
    · exact hinv.submitted other hold
    · rw [List.mem_singleton.mp hlast]
      exact ⟨row, hfind, fun _ ↦ hagent⟩
  case sound => exact hinv.sound.moreClaims (List.subset_append_left _ _)
  case known =>
    intro entry hmem
    have hlt := hinv.known entry hmem
    show entry.1 < (system.claims ++ [claim]).length
    rw [List.length_append]
    omega
  case conducted =>
    intro worker other hclaim
    rcases hnew hclaim with hold | ⟨rfl, rfl⟩
    · exact hinv.conducted worker other hold
    · rw [hempty]
      exact conducted_nil manager _ _
  case programs =>
    intro worker program hprogram
    by_cases heq : worker = system.claims.length
    · subst heq
      have hprogram : some (manager.executeOwnedRun claim) = some program := by
        simpa using hprogram
      obtain rfl := Option.some.inj hprogram
      refine ⟨claim, by simp, ?_⟩
      rw [hempty]
      exact Program.obeys_mono follows_executeOwnedRun fun _ _ _ _ ↦ trivial
    · have hprogram : system.workers worker = some program := by
        simpa [Function.update_of_ne heq] using hprogram
      obtain ⟨other, hother, hobeys⟩ := hinv.programs worker program hprogram
      exact ⟨other, prefix_keeps_claim (List.prefix_append _ _) hother, hobeys⟩

/-- A worker performs an operation. -/
theorem AttemptInv.performed (hinv : AttemptInv manager system log) {worker : Nat} {op : Op}
    {hscope : Op.manager op = true} {next : Except Failure op.Answer → Manager Unit}
    {answer : Except Failure op.Answer} {world : World}
    (hworker : system.workers worker = some (.call op hscope next))
    (hstep : DeedStep hasher system.world.db world.db ⟨op, answer⟩)
    (hpossible : possibleAnswer op answer) :
    AttemptInv manager
      { system with
        world := world
        workers := Function.update system.workers worker (some (next answer)) }
      (log ++ [(worker, ⟨op, answer⟩)]) := by
  obtain ⟨claim, hclaim, hallowed, hobeys⟩ := hinv.programs worker _ hworker
  have hmay : MayPerform manager claim (historyOf worker log)
      (⟨op, answer⟩ : Deed).op := hallowed
  have hmem := List.mem_of_getElem? hclaim
  have hconducted := hinv.conducted worker claim hclaim
  constructor
  case tokens => exact hinv.tokens
  case one => exact hinv.one
  case submitted =>
    intro other hother
    rcases hstep.cases with hsame | ⟨call, reading, reply, -, hok⟩
    · exact hsame ▸ hinv.submitted other hother
    · have happly : Request.apply hasher system.world.db ⟨reading, call⟩ = world.db :=
        apply_of_ok hok
      exact happly ▸ (hinv.submitted other hother).apply _
  case sound => exact sound_of_step hconducted hmay hstep hmem hinv.one hinv.sound
  case known =>
    intro entry hentry
    rcases List.mem_append.mp hentry with hold | hlast
    · exact hinv.known entry hold
    · rw [List.mem_singleton.mp hlast]
      exact (List.getElem?_eq_some_iff.mp hclaim).1
  case conducted =>
    intro other twin htwin
    rw [historyOf_snoc]
    by_cases heq : worker = other
    · subst heq
      obtain rfl : claim = twin := Option.some.inj (hclaim.symm.trans htwin)
      rw [if_pos rfl]
      exact hconducted.step hmay hstep hmem hinv.one hinv.sound
    · rw [if_neg heq]
      refine (hinv.conducted other twin htwin).leftAlone hstep.ages
        (leftAlone_of_step hstep hmay fun htoken ↦ heq ?_)
      exact attempt_of_token hinv.tokens hclaim htwin htoken
  case programs =>
    intro other program hprogram
    rw [historyOf_snoc]
    by_cases heq : worker = other
    · subst heq
      have hprogram : some (next answer) = some program := by simpa using hprogram
      obtain rfl := Option.some.inj hprogram
      rw [if_pos rfl]
      exact ⟨claim, hclaim, hobeys answer hpossible⟩
    · have hprogram : system.workers other = some program := by
        simpa [Function.update_of_ne (Ne.symm heq)] using hprogram
      rw [if_neg heq]
      exact hinv.programs other program hprogram

/-- A control call leaves the ledger alone and draws no lease. -/
theorem sameLedger_of_control {db : Database} {reading : Reading} {call : Call}
    (hcontrol : isControlCall call = true) :
    SameLedger db (Request.apply hasher db ⟨reading, call⟩) ∧
      Request.drawn ⟨reading, call⟩ = [] := by
  constructor
  · rcases ledger_of_apply hasher db ⟨reading, call⟩ with hsame | ⟨other, hcall, -⟩
    · exact hsame
    · dsimp only at hcall
      subst hcall
      cases hcontrol
  · unfold Request.drawn
    split
    · next hcall =>
      dsimp only at hcall
      subst hcall
      cases hcontrol
    · rfl

/-- Every event keeps the invariant, with what it adds to the log. -/
theorem AttemptInv.next (hinv : AttemptInv manager system log) {label : Label}
    (hfresh : FreshLeases system label) :
    AttemptInv manager (system.next hasher manager label) (log ++ deeds hasher system label) := by
  cases label with
  | work worker response =>
    show AttemptInv manager (system.work hasher worker response) _
    rcases work_cases hasher system worker response with ⟨hsame, hnone⟩ |
      ⟨op, hscope, next, answer, world, hworker, hperform, hnext, hdeeds⟩
    · rw [hsame, hnone, List.append_nil]
      exact hinv
    · obtain ⟨hstep, hpossible⟩ := deedStep_of_perform hperform
      rw [hnext, hdeeds]
      exact hinv.performed hworker hstep hpossible
  | crash worker =>
    show AttemptInv manager _ (log ++ [])
    rw [List.append_nil]
    refine { hinv with programs := fun other program hprogram ↦ hinv.programs other program ?_ }
    by_cases heq : other = worker
    · subst heq
      simp [System.next] at hprogram
    · simpa [System.next, Function.update_of_ne heq] using hprogram
  | claim reading ownerId duration =>
    show AttemptInv manager _ (log ++ [])
    rw [List.append_nil]
    let request : Request :=
      ⟨reading, .run (.claimNextRun ownerId duration (some reconciliationPendingCode))⟩
    have hclaimed {reply : Option RunLeaseClaim} {after : Database}
        (hclaim : claimNextRun system.world.db reading ownerId duration
          (some reconciliationPendingCode) = .ok (reply, after)) :
        AttemptInv manager (system.withDatabase after) log := by
      have happly : request.apply hasher system.world.db = after := apply_of_ok hclaim
      have hsame : SameLedger system.world.db after := (onlyRunTables_of_claimNextRun hclaim).1
      rw [← happly] at hsame ⊢
      refine hinv.request hsame fun token hdrawn ↦ ?_
      rw [List.mem_singleton.mp hdrawn]
      exact hfresh
    simp only [System.next, System.claim]
    split
    · next claim after hclaim =>
      obtain ⟨row, -, -, htoken, hrun, hrewrites⟩ := claimNextRun_eq_some hclaim
      have hfind := (hrewrites claim.run.runId).trans (if_pos rfl)
      refine (hclaimed hclaim).started (by rw [htoken]; exact hfresh) hfind rfl ?_
      rw [hrun]
      exact ⟨rfl, rfl, rfl, rfl⟩
    · next after hclaim => exact hclaimed hclaim
    · exact hinv
  | control reading call =>
    show AttemptInv manager _ (log ++ [])
    rw [List.append_nil]
    simp only [System.next]
    split_ifs with hcontrol
    · obtain ⟨hsame, hdrawn⟩ := sameLedger_of_control hcontrol
      refine hinv.request hsame fun token hmem ↦ ?_
      rw [hdrawn] at hmem
      cases hmem
    · exact hinv
  | applyEffect index =>
    show AttemptInv manager _ (log ++ [])
    rw [List.append_nil]
    exact { hinv with }

/-- The invariant holds after every run with fresh lease tokens. -/
theorem attemptInv_run {labels : List Label}
    (hadmits : (systemMachine hasher manager).Admits FreshLeases System.init labels) :
    AttemptInv manager ((systemMachine hasher manager).run System.init labels)
      ((systemMachine hasher manager).log (deeds hasher) System.init labels) :=
  (systemMachine hasher manager).invariant_log (AttemptInv manager)
    (fun _ _ _ hinv hfresh ↦ hinv.next hfresh) (attemptInv_init manager) hadmits

end Invariant

end AgentRuntime.Execution
