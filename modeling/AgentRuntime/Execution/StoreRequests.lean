import AgentRuntime.Store.WorkflowTransitions
import AgentRuntime.Execution.System

/-!
# The database under the system

Every event of the system leaves the database alone or applies one request to it
(`database_of_next`), so what is proved of all histories of the stores holds of the database of
every run (`storeHistory_of_run`).
-/

set_option autoImplicit false
set_option relaxedAutoImplicit false

namespace AgentRuntime.Execution

open Library Store

theorem record_db (world : World) (worker : Nat) (call : Call) (reply : call.Reply)
    (after : Database) : (world.record worker call reply after).db = after := by
  unfold World.record
  split <;> rfl

/-- A worker's store operation leaves the database alone or applies the request. -/
theorem db_of_performStore (hasher : Hasher) (world : World) (worker : Nat) (call : Call)
    (reading : Reading) (fault : Option StorageFault) :
    (world.performStore hasher worker call reading fault).2.db = world.db ∨
      (world.performStore hasher worker call reading fault).2.db =
        Request.apply hasher world.db ⟨reading, call⟩ := by
  unfold World.performStore
  split
  · exact .inl rfl
  · split
    · exact .inl rfl
    · next reply after hok =>
      right
      rw [apply_of_ok hok]
      split
      · exact record_db _ _ _ _ _
      · exact record_db _ _ _ _ _

/-- An operation other than a store call leaves the database alone. -/
theorem db_of_perform {hasher : Hasher} {world after : World} {worker : Nat} {op : Op}
    {response : Response} {answer : Except Failure op.Answer}
    (hperform : world.perform hasher worker op response = some (answer, after)) :
    after.db = world.db ∨ ∃ call reading fault, op = .store call ∧
      response = .store reading fault ∧
      after.db = Request.apply hasher world.db ⟨reading, call⟩ := by
  have hworld {reply : Except Failure op.Answer} {next : World}
      (heq : some (reply, next) = some (answer, after)) (hdb : next.db = world.db) :
      after.db = world.db := by
    obtain ⟨-, rfl⟩ := Prod.mk.inj (Option.some.inj heq)
    exact hdb
  cases op with
  | store call =>
    cases response with
    | store reading fault =>
      have hafter : (world.performStore hasher worker call reading fault).2 = after :=
        congrArg Prod.snd (Option.some.inj hperform)
      rcases db_of_performStore hasher world worker call reading fault with hsame | happly
      · exact .inl (hafter ▸ hsame)
      · exact .inr ⟨call, reading, fault, rfl, rfl, hafter ▸ happly⟩
    | _ => cases hperform
  | awaitProvider =>
    cases response with
    | provider =>
      simp only [World.perform] at hperform
      split_ifs at hperform
      exact .inl (hworld hperform rfl)
    | _ => cases hperform
  | decide | executeTool | evaluateFinish | enterProvider | leaseLost | runtimeEnded
  | unfollowed =>
    cases response with
    | store | planner | tool | evaluation | provider | flag | noted =>
      first | exact .inl (hworld hperform rfl) | cases hperform

/-- An event leaves the database alone or applies a request. -/
theorem database_of_next (hasher : Hasher) (manager : RuntimeManager) (system : System)
    (label : Label) :
    (system.next hasher manager label).world.db = system.world.db ∨
      ∃ request : Request, (system.next hasher manager label).world.db =
        request.apply hasher system.world.db := by
  cases label with
  | work worker response =>
    simp only [System.next, System.work]
    split
    · split
      · next answer world hperform =>
        rcases db_of_perform hperform with hdb | ⟨call, reading, fault, rfl, rfl, hdb⟩
        · exact .inl hdb
        · exact .inr ⟨⟨reading, call⟩, hdb⟩
      · exact .inl rfl
    · exact .inl rfl
  | crash worker => exact .inl rfl
  | claim reading ownerId duration =>
    let request : Request :=
      ⟨reading, .run (.claimNextRun ownerId duration (some reconciliationPendingCode))⟩
    have happly {reply : Option RunLeaseClaim} {after : Database}
        (hclaim : claimNextRun system.world.db reading ownerId duration
          (some reconciliationPendingCode) = .ok (reply, after)) :
        request.apply hasher system.world.db = after := apply_of_ok hclaim
    simp only [System.next, System.claim]
    split
    · next hclaim => exact .inr ⟨request, (happly hclaim).symm⟩
    · next hclaim => exact .inr ⟨request, (happly hclaim).symm⟩
    · exact .inl rfl
  | control reading call =>
    simp only [System.next]
    split_ifs
    · exact .inr ⟨⟨reading, call⟩, rfl⟩
    · exact .inl rfl
  | applyEffect index => exact .inl rfl

/-- The database of a run is that of a history of the stores. -/
theorem storeHistory_of_run (hasher : Hasher) (manager : RuntimeManager) (system : System)
    (labels : List Label) :
    ∃ history, ((systemMachine hasher manager).run system labels).world.db =
      (storeMachine hasher).run system.world.db history := by
  induction labels generalizing system with
  | nil => exact ⟨[], rfl⟩
  | cons label rest ih =>
    obtain ⟨history, hrest⟩ := ih (system.next hasher manager label)
    rcases database_of_next hasher manager system label with hsame | ⟨request, happly⟩
    · exact ⟨history, hrest.trans (by rw [hsame])⟩
    · refine ⟨request :: history, hrest.trans ?_⟩
      rw [happly]
      rfl

end AgentRuntime.Execution
