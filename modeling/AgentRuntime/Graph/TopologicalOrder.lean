import Mathlib.Data.List.Nodup
import AgentRuntime.Library.Schedules
import AgentRuntime.Graph.WorkflowDag

/-!
# What `WorkflowDag` accepts and how it orders

`KahnInv` says where the loop of `_build_topological_order` stands: what is ordered so far is greedy
by declaration position, each count is the number of dependencies that are not ordered yet, and the
heap holds exactly the eligible nodes. It fixes the next node whatever order the sets are iterated
in. When the heap is empty no node is eligible, so either everything is ordered or the rest has a
cycle.

`construction_decides_acyclicity` puts this together with the checks of the constructor.
-/

set_option autoImplicit false
set_option relaxedAutoImplicit false

namespace AgentRuntime.Graph

open Library

/-- A node declares a dependency on another id. -/
def Needs (nodes : List WorkflowNode) (nodeId other : String) : Prop :=
  ∃ node ∈ nodes, node.nodeId = nodeId ∧ other ∈ node.dependencies

/-- What the checks before the ordering ask of a list of nodes. -/
structure WellDeclared (nodes : List WorkflowNode) : Prop where
  nonempty : nodes ≠ []
  named : ∀ node ∈ nodes, node.nodeId ≠ ""
  distinct : (nodeIds nodes).Nodup
  once : ∀ node ∈ nodes, node.dependencies.Nodup
  foreign : ∀ node ∈ nodes, node.nodeId ∉ node.dependencies
  known : ∀ node ∈ nodes, ∀ dependency ∈ node.dependencies, dependency ∈ nodeIds nodes

/-! ### The checks -/

theorem checkNodes_eq_ok (nodes : List WorkflowNode) (seen : List String) (hseen : seen.Nodup) :
    checkNodes nodes seen = .ok () ↔ (seen ++ nodeIds nodes).Nodup ∧
      ∀ node ∈ nodes, node.nodeId ≠ "" ∧ node.dependencies.Nodup := by
  induction nodes generalizing seen with
  | nil => simpa [checkNodes, nodeIds] using hseen
  | cons node rest ih =>
    have hdedup : node.dependencies.dedup.length = node.dependencies.length ↔
        node.dependencies.Nodup := by
      constructor
      · intro hlength
        rw [← List.dedup_eq_self]
        exact (List.dedup_sublist _).eq_of_length hlength
      · intro hnodup
        rw [hnodup.dedup]
    have hids : seen ++ nodeIds (node :: rest) = seen ++ [node.nodeId] ++ nodeIds rest := by
      rw [nodeIds, List.map_cons, List.append_cons]
      rfl
    unfold checkNodes
    rw [hids]
    split_ifs with hname hmem honce
    · simp [hname]
    · refine iff_of_false (by simp) fun ⟨hnodup, _⟩ ↦ ?_
      exact (List.nodup_append.mp hnodup.of_append_left).2.2 _ hmem _
        (List.mem_singleton_self _) rfl
    · refine iff_of_false (by simp) fun ⟨_, hall⟩ ↦ ?_
      exact honce (hdedup.mpr (hall node List.mem_cons_self).2)
    · have hnext : (seen ++ [node.nodeId]).Nodup := by
        rw [← List.concat_eq_append, List.nodup_concat]
        exact ⟨hmem, hseen⟩
      rw [ih _ hnext]
      refine and_congr_right fun _ ↦ ?_
      rw [List.forall_mem_cons]
      exact ⟨fun hrest ↦ ⟨⟨hname, hdedup.mp (not_not.mp honce)⟩, hrest⟩, fun hall ↦ hall.2⟩

theorem checkDependencies_eq_ok (known : List String) (nodes : List WorkflowNode) :
    checkDependencies known nodes = .ok () ↔ ∀ node ∈ nodes,
      node.nodeId ∉ node.dependencies ∧ ∀ dependency ∈ node.dependencies, dependency ∈ known := by
  induction nodes with
  | nil => simp [checkDependencies]
  | cons node rest ih =>
    have hmissing : node.dependencies.filter (· ∉ known) = [] ↔
        ∀ dependency ∈ node.dependencies, dependency ∈ known := by
      simp [List.filter_eq_nil_iff]
    unfold checkDependencies
    dsimp only
    rw [List.forall_mem_cons]
    split_ifs with hself hknown
    · exact iff_of_false (by simp) fun hall ↦ hall.1.1 hself
    · exact iff_of_false (by simp) fun hall ↦ hknown (hmissing.mpr hall.1.2)
    · rw [ih]
      exact ⟨fun hrest ↦ ⟨⟨hself, hmissing.mp (not_not.mp hknown)⟩, hrest⟩, fun hall ↦ hall.2⟩

/-- The checks before the ordering pass exactly for well-declared nodes. -/
theorem build_eq_ok (sets : SetOrder) (nodes : List WorkflowNode) (dag : WorkflowDag) :
    WorkflowDag.build sets nodes = .ok dag ↔ WellDeclared nodes ∧
      ∃ order, buildTopologicalOrder sets nodes = .ok order ∧ dag = ⟨nodes, order⟩ := by
  have hnodes := checkNodes_eq_ok nodes [] List.nodup_nil
  have hdependencies := checkDependencies_eq_ok (nodeIds nodes) nodes
  rw [List.nil_append] at hnodes
  have hdeclared : WellDeclared nodes ↔ nodes ≠ [] ∧ checkNodes nodes [] = .ok () ∧
      checkDependencies (nodeIds nodes) nodes = .ok () := by
    rw [hnodes, hdependencies]
    constructor
    · exact fun h ↦ ⟨h.nonempty,
        ⟨h.distinct, fun node hmem ↦ ⟨h.named node hmem, h.once node hmem⟩⟩,
        fun node hmem ↦ ⟨h.foreign node hmem, h.known node hmem⟩⟩
    · exact fun ⟨hne, ⟨hdistinct, hfirst⟩, hsecond⟩ ↦ ⟨hne, fun node hmem ↦ (hfirst node hmem).1,
        hdistinct, fun node hmem ↦ (hfirst node hmem).2, fun node hmem ↦ (hsecond node hmem).1,
        fun node hmem ↦ (hsecond node hmem).2⟩
  rw [hdeclared]
  unfold WorkflowDag.build
  cases nodes with
  | nil =>
    refine iff_of_false (fun hok ↦ ?_) fun hall ↦ hall.1.1 rfl
    cases hok
  | cons node rest =>
    cases checkNodes (node :: rest) [] with
    | error error => simp [Bind.bind, Except.bind]
    | ok value =>
      cases checkDependencies (nodeIds (node :: rest)) (node :: rest) with
      | error error => simp [Bind.bind, Except.bind]
      | ok value =>
        cases buildTopologicalOrder sets (node :: rest) with
        | error error => simp [Bind.bind, Except.bind]
        | ok order => simp [Bind.bind, Except.bind, pure, Except.pure, eq_comm]

/-! ### The dictionaries -/

section Dictionaries

variable {nodes : List WorkflowNode}

theorem mem_dependencies (hdistinct : (nodeIds nodes).Nodup) {nodeId other : String} :
    other ∈ dependencies nodes nodeId ↔ Needs nodes nodeId other := by
  unfold dependencies
  cases hfind : nodes.find? fun node ↦ node.nodeId == nodeId with
  | none =>
    refine iff_of_false (by simp) fun ⟨node, hmem, hname, _⟩ ↦ ?_
    exact List.find?_eq_none.mp hfind node hmem (by simpa using hname)
  | some found =>
    have hname : found.nodeId = nodeId := by simpa using List.find?_some hfind
    have hfound := List.mem_of_find?_eq_some hfind
    constructor
    · exact fun hmem ↦ ⟨found, hfound, hname, hmem⟩
    · rintro ⟨node, hmem, hnode, hother⟩
      rwa [← List.inj_on_of_nodup_map hdistinct hmem hfound (hnode.trans hname.symm)]

theorem dependencies_nodup (honce : ∀ node ∈ nodes, node.dependencies.Nodup) (nodeId : String) :
    (dependencies nodes nodeId).Nodup := by
  unfold dependencies
  cases hfind : nodes.find? fun node ↦ node.nodeId == nodeId with
  | none => exact List.nodup_nil
  | some found => exact honce found (List.mem_of_find?_eq_some hfind)

theorem mem_dependents {nodeId other : String} :
    other ∈ dependents nodes nodeId ↔ Needs nodes other nodeId := by
  unfold dependents nodeIds Needs
  rw [List.mem_map]
  refine exists_congr fun node ↦ ?_
  rw [List.mem_filter, List.contains_iff_mem]
  tauto

theorem dependents_nodup (hdistinct : (nodeIds nodes).Nodup) (nodeId : String) :
    (dependents nodes nodeId).Nodup :=
  hdistinct.sublist ((List.filter_sublist).map _)

theorem position_injOn : Set.InjOn (position nodes) {nodeId | nodeId ∈ nodeIds nodes} :=
  fun _ hmem _ _ heq ↦ List.idxOf_inj hmem |>.mp heq

theorem needs_known (hdeclared : WellDeclared nodes) {nodeId other : String}
    (hneeds : Needs nodes nodeId other) : nodeId ∈ nodeIds nodes ∧ other ∈ nodeIds nodes := by
  obtain ⟨node, hmem, rfl, hother⟩ := hneeds
  exact ⟨List.mem_map_of_mem hmem, hdeclared.known node hmem other hother⟩

end Dictionaries

/-! ### The heap -/

theorem leastEntry_eq_none {ready : List HeapEntry} : leastEntry ready = none ↔ ready = [] := by
  cases ready with
  | nil => simp [leastEntry]
  | cons entry rest =>
    refine iff_of_false ?_ (by simp)
    unfold leastEntry
    cases leastEntry rest with
    | none => simp
    | some other =>
      dsimp only
      split_ifs <;> simp

theorem HeapEntry.position_le {left right : HeapEntry} (hle : HeapEntry.le left right = true) :
    left.1 ≤ right.1 := by
  unfold HeapEntry.le at hle
  rw [Bool.or_eq_true, Bool.and_eq_true, decide_eq_true_eq, beq_iff_eq] at hle
  omega

theorem HeapEntry.position_ge {left right : HeapEntry} (hle : HeapEntry.le left right = false) :
    right.1 ≤ left.1 := by
  unfold HeapEntry.le at hle
  rw [Bool.or_eq_false_iff, decide_eq_false_iff_not] at hle
  omega

theorem leastEntry_spec {ready : List HeapEntry} {entry : HeapEntry}
    (hleast : leastEntry ready = some entry) :
    entry ∈ ready ∧ ∀ other ∈ ready, entry.1 ≤ other.1 := by
  induction ready generalizing entry with
  | nil => cases hleast
  | cons head rest ih =>
    unfold leastEntry at hleast
    cases hrest : leastEntry rest with
    | none =>
      rw [hrest] at hleast
      obtain rfl := Option.some.inj hleast
      rw [leastEntry_eq_none.mp hrest]
      refine ⟨List.mem_singleton_self _, fun other hmem ↦ ?_⟩
      rw [List.mem_singleton.mp hmem]
    | some least =>
      rw [hrest] at hleast
      obtain ⟨hmem, hall⟩ := ih hrest
      dsimp only at hleast
      split_ifs at hleast with hle
      · obtain rfl := Option.some.inj hleast
        have hhead := HeapEntry.position_le hle
        refine ⟨List.mem_cons_self, fun other hother ↦ ?_⟩
        rcases List.mem_cons.mp hother with rfl | htail
        · exact le_rfl
        · exact hhead.trans (hall other htail)
      · obtain rfl := Option.some.inj hleast
        have hhead := HeapEntry.position_ge (Bool.not_eq_true _ ▸ hle)
        refine ⟨List.mem_cons_of_mem _ hmem, fun other hother ↦ ?_⟩
        rcases List.mem_cons.mp hother with rfl | htail
        · exact hhead
        · exact hall other htail

/-! ### The loop -/

/-- Where the loop stands. -/
structure KahnInv (nodes : List WorkflowNode) (state : KahnState) : Prop where
  greedy : Greedy (Needs nodes) (nodeIds nodes) (position nodes) state.ordered
  counts : ∀ nodeId, state.remaining nodeId =
    ((dependencies nodes nodeId).filter (· ∉ state.ordered)).length
  ready : ∀ entry, entry ∈ state.ready ↔ entry.1 = position nodes entry.2 ∧
    Eligible (Needs nodes) (nodeIds nodes) state.ordered entry.2
  distinct : state.ready.Nodup

section Loop

variable {nodes : List WorkflowNode} {state : KahnState}

/-- What releasing some distinct dependents does to the variables of the loop. -/
theorem foldl_release (state : KahnState) {released : List String} (hnodup : released.Nodup)
    (hfresh : ∀ dependent ∈ released, (position nodes dependent, dependent) ∉ state.ready) :
    let after := released.foldl (KahnState.release nodes) state
    after.ordered = state.ordered ∧
      (∀ nodeId, after.remaining nodeId =
        state.remaining nodeId - if nodeId ∈ released then 1 else 0) ∧
      (∀ entry, entry ∈ after.ready ↔ entry ∈ state.ready ∨ ∃ dependent ∈ released,
        state.remaining dependent = 1 ∧ entry = (position nodes dependent, dependent)) ∧
      (state.ready.Nodup → after.ready.Nodup) := by
  induction released generalizing state with
  | nil => simp
  | cons head rest ih =>
    obtain ⟨hhead, hrest⟩ := List.nodup_cons.mp hnodup
    have hheadFresh := hfresh head List.mem_cons_self
    have hready : ∀ entry, entry ∈ (state.release nodes head).ready ↔ entry ∈ state.ready ∨
        state.remaining head = 1 ∧ entry = (position nodes head, head) := by
      intro entry
      unfold KahnState.release
      dsimp only
      split_ifs with hzero
      · rw [List.mem_cons]
        have hone : state.remaining head = 1 := by omega
        tauto
      · have hone : state.remaining head ≠ 1 := by omega
        tauto
    have hlater : ∀ dependent ∈ rest,
        (position nodes dependent, dependent) ∉ (state.release nodes head).ready := by
      intro dependent hmem hin
      rcases (hready _).mp hin with hold | ⟨-, hsame⟩
      · exact hfresh dependent (List.mem_cons_of_mem _ hmem) hold
      · obtain rfl : dependent = head := (Prod.mk.inj hsame).2
        exact hhead hmem
    obtain ⟨hordered, hremaining, hentries, hkept⟩ := ih (state.release nodes head) hrest hlater
    have hcount : ∀ nodeId, (state.release nodes head).remaining nodeId =
        state.remaining nodeId - if nodeId = head then 1 else 0 := by
      intro nodeId
      by_cases hsame : nodeId = head
      · rw [hsame, if_pos rfl]
        exact Function.update_self _ _ _
      · rw [if_neg hsame, Int.sub_zero]
        exact Function.update_of_ne hsame _ _
    refine ⟨hordered, fun nodeId ↦ ?_, fun entry ↦ ?_, fun hdistinct ↦ hkept ?_⟩
    · rw [List.foldl_cons, hremaining, hcount]
      by_cases hsame : nodeId = head
      · subst hsame
        simp [hhead]
      · simp [hsame, List.mem_cons]
    · rw [List.foldl_cons, hentries, hready, or_assoc]
      refine or_congr_right ?_
      simp only [List.mem_cons, exists_eq_or_imp]
      refine or_congr_right (exists_congr fun dependent ↦ and_congr_right fun hmem ↦ ?_)
      have hne : dependent ≠ head := fun hsame ↦ hhead (hsame ▸ hmem)
      rw [hcount, if_neg hne, Int.sub_zero]
    · unfold KahnState.release
      dsimp only
      split_ifs
      · exact List.nodup_cons.mpr ⟨hheadFresh, hdistinct⟩
      · exact hdistinct

/-- One more ordered node is one dependency less for the nodes that need it. -/
theorem count_after {ordered : List String} {done : String} (hdeclared : WellDeclared nodes)
    (hopen : done ∉ ordered) (nodeId : String) :
    (((dependencies nodes nodeId).filter (· ∉ ordered ++ [done])).length : Int) =
      ((dependencies nodes nodeId).filter (· ∉ ordered)).length -
        if nodeId ∈ dependents nodes done then 1 else 0 := by
  have hnodup : ((dependencies nodes nodeId).filter (· ∉ ordered)).Nodup :=
    (dependencies_nodup hdeclared.once nodeId).filter _
  have herase : (dependencies nodes nodeId).filter (· ∉ ordered ++ [done]) =
      ((dependencies nodes nodeId).filter (· ∉ ordered)).erase done := by
    rw [hnodup.erase_eq_filter, List.filter_filter]
    refine List.filter_congr fun other _ ↦ ?_
    rw [Bool.eq_iff_iff]
    simp [and_comm]
  have hiff : nodeId ∈ dependents nodes done ↔
      done ∈ (dependencies nodes nodeId).filter (· ∉ ordered) := by
    rw [mem_dependents, ← mem_dependencies hdeclared.distinct, List.mem_filter]
    simp [hopen]
  rw [herase]
  by_cases hneeds : nodeId ∈ dependents nodes done
  · have hmem := hiff.mp hneeds
    have hpos := List.length_pos_of_mem hmem
    rw [if_pos hneeds, List.length_erase_of_mem hmem]
    omega
  · rw [if_neg hneeds, List.erase_of_not_mem (fun hmem ↦ hneeds (hiff.mpr hmem)), Int.sub_zero]

/-- The count of a node is zero when nothing is missing. -/
theorem count_eq_zero (hdeclared : WellDeclared nodes) {ordered : List String} {nodeId : String} :
    (dependencies nodes nodeId).filter (· ∉ ordered) = [] ↔
      ∀ other, Needs nodes nodeId other → other ∈ ordered := by
  rw [List.filter_eq_nil_iff]
  refine forall_congr' fun other ↦ ?_
  rw [mem_dependencies hdeclared.distinct]
  simp

theorem kahnInv_initial (hdeclared : WellDeclared nodes) :
    KahnInv nodes (KahnState.initial nodes) where
  greedy := greedy_nil _
  counts nodeId := by
    change ((dependencies nodes nodeId).length : Int) = _
    rw [List.filter_eq_self.mpr]
    intro other _
    simp [KahnState.initial]
  ready entry := by
    unfold KahnState.initial
    rw [List.mem_map]
    constructor
    · rintro ⟨nodeId, hmem, rfl⟩
      obtain ⟨hknown, hnone⟩ := List.mem_filter.mp hmem
      refine ⟨rfl, hknown, List.not_mem_nil, fun other hneeds ↦ ?_⟩
      rw [← mem_dependencies hdeclared.distinct] at hneeds
      rw [beq_iff_eq, List.length_eq_zero_iff] at hnone
      rw [hnone] at hneeds
      cases hneeds
    · rintro ⟨hposition, heligible⟩
      refine ⟨entry.2, List.mem_filter.mpr ⟨heligible.mem, ?_⟩, Prod.ext hposition.symm rfl⟩
      rw [beq_iff_eq, List.length_eq_zero_iff, List.eq_nil_iff_forall_not_mem]
      intro other hmem
      exact List.not_mem_nil (heligible.ready other ((mem_dependencies hdeclared.distinct).mp hmem))
  distinct := by
    refine List.Nodup.map (fun left right heq ↦ (Prod.mk.inj heq).2) ?_
    exact hdeclared.distinct.filter _

/-- A node whose last missing dependency is done becomes eligible, and no other does. -/
theorem eligible_after (hdeclared : WellDeclared nodes) (hinv : KahnInv nodes state)
    {done : String} (hdone : Eligible (Needs nodes) (nodeIds nodes) state.ordered done)
    (nodeId : String) :
    Eligible (Needs nodes) (nodeIds nodes) (state.ordered ++ [done]) nodeId ↔
      (Eligible (Needs nodes) (nodeIds nodes) state.ordered nodeId ∧ nodeId ≠ done) ∨
        (nodeId ∈ dependents nodes done ∧ state.remaining nodeId = 1) := by
  have hcount := count_after hdeclared hdone.open_ nodeId
  rw [← hinv.counts] at hcount
  constructor
  · rintro ⟨hmem, hopen, hready⟩
    rw [List.mem_append, List.mem_singleton, not_or] at hopen
    by_cases hneeds : nodeId ∈ dependents nodes done
    · right
      refine ⟨hneeds, ?_⟩
      rw [(count_eq_zero hdeclared).mpr hready, if_pos hneeds] at hcount
      rw [List.length_nil] at hcount
      omega
    · left
      refine ⟨⟨hmem, hopen.1, fun other hother ↦ ?_⟩, hopen.2⟩
      rcases List.mem_append.mp (hready other hother) with hold | hnew
      · exact hold
      · rw [List.mem_singleton.mp hnew] at hother
        exact absurd (mem_dependents.mpr hother) hneeds
  · rintro (⟨⟨hmem, hopen, hready⟩, hne⟩ | ⟨hneeds, hone⟩)
    · refine ⟨hmem, ?_, fun other hother ↦ List.mem_append_left _ (hready other hother)⟩
      rw [List.mem_append, List.mem_singleton, not_or]
      exact ⟨hopen, hne⟩
    · have hedge := mem_dependents.mp hneeds
      have hnone : (dependencies nodes nodeId).filter (· ∉ state.ordered ++ [done]) = [] := by
        rw [hone, if_pos hneeds] at hcount
        exact List.length_eq_zero_iff.mp (by omega)
      have hready := (count_eq_zero hdeclared).mp hnone
      refine ⟨(needs_known hdeclared hedge).1, fun hmem ↦ ?_, hready⟩
      rcases List.mem_append.mp hmem with hold | hnew
      · -- an ordered node needs nothing that is still open
        obtain ⟨before, rest, hsplit⟩ := List.append_of_mem hold
        have hbefore := (hinv.greedy before nodeId rest hsplit).1.ready done hedge
        exact hdone.open_ (hsplit ▸ List.mem_append_left _ hbefore)
      · obtain ⟨node, hnode, hname, hdependency⟩ := hedge
        rw [List.mem_singleton.mp hnew] at hname
        exact hdeclared.foreign node hnode (hname ▸ hdependency)

theorem KahnInv.visit (hdeclared : WellDeclared nodes) (sets : SetOrder)
    (hinv : KahnInv nodes state) {entry : HeapEntry}
    (hleast : leastEntry state.ready = some entry) :
    KahnInv nodes (state.visit sets nodes entry) ∧
      (state.visit sets nodes entry).ordered = state.ordered ++ [entry.2] := by
  obtain ⟨hmem, hfirst⟩ := leastEntry_spec hleast
  obtain ⟨hposition, heligible⟩ := (hinv.ready entry).mp hmem
  have hperm := sets.perm entry.2 (dependents nodes entry.2)
  have hnodup : (sets.iterate entry.2 (dependents nodes entry.2)).Nodup :=
    hperm.nodup_iff.mpr (dependents_nodup hdeclared.distinct entry.2)
  have hfresh : ∀ dependent ∈ sets.iterate entry.2 (dependents nodes entry.2),
      (position nodes dependent, dependent) ∉ state.ready.erase entry := by
    intro dependent hdependent hin
    have hneeds := mem_dependents.mp (hperm.mem_iff.mp hdependent)
    have hready := ((hinv.ready _).mp (List.mem_of_mem_erase hin)).2
    exact heligible.open_ (hready.ready entry.2 hneeds)
  obtain ⟨hordered, hremaining, hentries, hdistinct⟩ := foldl_release
    { state with ready := state.ready.erase entry, ordered := state.ordered ++ [entry.2] }
    hnodup hfresh
  refine ⟨⟨?_, fun nodeId ↦ ?_, fun other ↦ ?_, ?_⟩, hordered⟩
  · rw [KahnState.visit, hordered]
    refine hinv.greedy.concat heligible fun other hother ↦ ?_
    have hentry := (hinv.ready (position nodes other, other)).mpr ⟨rfl, hother⟩
    exact hposition ▸ hfirst _ hentry
  · rw [KahnState.visit, hremaining, hordered, count_after hdeclared heligible.open_, hinv.counts]
    simp only [hperm.mem_iff]
  · rw [KahnState.visit, hentries, hordered, hinv.distinct.mem_erase_iff, hinv.ready,
      eligible_after hdeclared hinv heligible]
    constructor
    · rintro (⟨hne, hplace, hother⟩ | ⟨dependent, hdependent, hone, rfl⟩)
      · refine ⟨hplace, .inl ⟨hother, fun hsame ↦ hne (Prod.ext ?_ hsame)⟩⟩
        rw [hplace, hsame, hposition]
      · exact ⟨rfl, .inr ⟨hperm.mem_iff.mp hdependent, hone⟩⟩
    · rintro ⟨hplace, ⟨hother, hne⟩ | ⟨hdependent, hone⟩⟩
      · exact .inl ⟨fun hsame ↦ hne (congrArg Prod.snd hsame), hplace, hother⟩
      · exact .inr ⟨other.2, hperm.mem_iff.mpr hdependent, hone, Prod.ext hplace rfl⟩
  · exact hdistinct (hinv.distinct.erase entry)

/-- After some rounds the loop is over, or it has ordered a node in each of them. -/
theorem KahnInv.drain (hdeclared : WellDeclared nodes) (sets : SetOrder) (rounds : Nat)
    (hinv : KahnInv nodes state) :
    KahnInv nodes (KahnState.drain sets nodes rounds state) ∧
      ((KahnState.drain sets nodes rounds state).ready = [] ∨
        (KahnState.drain sets nodes rounds state).ordered.length =
          state.ordered.length + rounds) := by
  induction rounds generalizing state with
  | zero => exact ⟨hinv, .inr rfl⟩
  | succ rounds ih =>
    unfold KahnState.drain
    cases hleast : leastEntry state.ready with
    | none => exact ⟨hinv, .inl (leastEntry_eq_none.mp hleast)⟩
    | some entry =>
      obtain ⟨hnext, hordered⟩ := hinv.visit hdeclared sets hleast
      obtain ⟨hfinal, hend⟩ := ih hnext
      refine ⟨hfinal, hend.imp_right fun hlength ↦ ?_⟩
      rw [hlength, hordered, List.length_append, List.length_singleton]
      omega

theorem KahnInv.length_le (hinv : KahnInv nodes state) : state.ordered.length ≤ nodes.length := by
  obtain ⟨hnodup, hsubset⟩ := hinv.greedy.nodup
  have hle := (hnodup.subperm hsubset).length_le
  rwa [nodeIds, List.length_map] at hle

/-- Everything is ordered when as many nodes are ordered as there are. -/
theorem KahnInv.all_ordered (hinv : KahnInv nodes state)
    (hlength : state.ordered.length = nodes.length) : nodeIds nodes ⊆ state.ordered := by
  obtain ⟨hnodup, hsubset⟩ := hinv.greedy.nodup
  have hperm := (hnodup.subperm hsubset).perm_of_length_le (by
    rw [nodeIds, List.length_map, hlength])
  exact hperm.symm.subset

/-- The loop is over within as many rounds as there are nodes. -/
theorem kahn_final (hdeclared : WellDeclared nodes) (sets : SetOrder) :
    KahnInv nodes (KahnState.final sets nodes) ∧ (KahnState.final sets nodes).ready = [] := by
  obtain ⟨hinv, hend⟩ := (kahnInv_initial hdeclared).drain hdeclared sets nodes.length
  refine ⟨hinv, hend.elim id fun hlength ↦ ?_⟩
  have hall := hinv.all_ordered (hlength.trans (Nat.zero_add _))
  rw [List.eq_nil_iff_forall_not_mem]
  intro entry hmem
  have heligible := ((hinv.ready entry).mp hmem).2
  exact heligible.open_ (hall heligible.mem)

/-- The order of the sets does not show in what the loop computes. -/
theorem drain_congr (hdeclared : WellDeclared nodes) (sets others : SetOrder) (rounds : Nat)
    {twin : KahnState} (hinv : KahnInv nodes state) (htwin : KahnInv nodes twin)
    (hordered : state.ordered = twin.ordered) :
    (KahnState.drain sets nodes rounds state).ordered =
      (KahnState.drain others nodes rounds twin).ordered := by
  induction rounds generalizing state twin with
  | zero => exact hordered
  | succ rounds ih =>
    have hready : ∀ entry, entry ∈ state.ready ↔ entry ∈ twin.ready := by
      intro entry
      rw [hinv.ready, htwin.ready, hordered]
    unfold KahnState.drain
    cases hleast : leastEntry state.ready with
    | none =>
      have hnone : twin.ready = [] := by
        rw [List.eq_nil_iff_forall_not_mem]
        intro entry hmem
        rw [← hready, leastEntry_eq_none.mp hleast] at hmem
        cases hmem
      rw [leastEntry_eq_none.mpr hnone]
      exact hordered
    | some entry =>
      obtain ⟨hmem, hfirst⟩ := leastEntry_spec hleast
      cases htwinLeast : leastEntry twin.ready with
      | none =>
        rw [hready, leastEntry_eq_none.mp htwinLeast] at hmem
        cases hmem
      | some other =>
        obtain ⟨hother, hotherFirst⟩ := leastEntry_spec htwinLeast
        have hplace : entry.1 = other.1 :=
          le_antisymm (hfirst other ((hready other).mpr hother))
            (hotherFirst entry ((hready entry).mp hmem))
        obtain ⟨hposition, heligible⟩ := (hinv.ready entry).mp hmem
        obtain ⟨hotherPosition, hotherEligible⟩ := (htwin.ready other).mp hother
        have hname : entry.2 = other.2 := by
          refine position_injOn heligible.mem hotherEligible.mem ?_
          rw [← hposition, ← hotherPosition, hplace]
        obtain ⟨hnext, hnextOrdered⟩ := hinv.visit hdeclared sets hleast
        obtain ⟨htwinNext, htwinOrdered⟩ := htwin.visit hdeclared others htwinLeast
        refine ih hnext htwinNext ?_
        rw [hnextOrdered, htwinOrdered, hordered, hname]

theorem buildTopologicalOrder_congr (hdeclared : WellDeclared nodes) (sets others : SetOrder) :
    buildTopologicalOrder sets nodes = buildTopologicalOrder others nodes := by
  have hordered : (KahnState.final sets nodes).ordered = (KahnState.final others nodes).ordered :=
    drain_congr hdeclared sets others nodes.length (kahnInv_initial hdeclared)
      (kahnInv_initial hdeclared) rfl
  have hremaining : (KahnState.final sets nodes).remaining =
      (KahnState.final others nodes).remaining := by
    funext nodeId
    rw [(kahn_final hdeclared sets).1.counts, (kahn_final hdeclared others).1.counts, hordered]
  unfold buildTopologicalOrder
  dsimp only
  rw [hordered, hremaining]

/-- The ordering succeeds exactly when the dependencies are acyclic, with the least schedule. -/
theorem buildTopologicalOrder_eq_ok (hdeclared : WellDeclared nodes) (sets : SetOrder) :
    ((∃ order, buildTopologicalOrder sets nodes = .ok order) ↔ Acyclic (Needs nodes)) ∧
      ∀ order, buildTopologicalOrder sets nodes = .ok order →
        IsSchedule (Needs nodes) (nodeIds nodes) order ∧
          ∀ other, IsSchedule (Needs nodes) (nodeIds nodes) other →
            order.map (position nodes) ≤ other.map (position nodes) := by
  obtain ⟨hinv, hover⟩ := kahn_final hdeclared sets
  have hspec : ∀ order, buildTopologicalOrder sets nodes = .ok order →
      nodeIds nodes ⊆ order ∧ order = (KahnState.final sets nodes).ordered := by
    intro order hok
    unfold buildTopologicalOrder at hok
    dsimp only at hok
    split_ifs at hok with hlength
    obtain rfl := Except.ok.inj hok
    exact ⟨hinv.all_ordered (not_not.mp hlength), rfl⟩
  have hschedule : ∀ order, buildTopologicalOrder sets nodes = .ok order →
      IsSchedule (Needs nodes) (nodeIds nodes) order := by
    intro order hok
    obtain ⟨hall, rfl⟩ := hspec order hok
    exact hinv.greedy.isSchedule hdeclared.distinct hall
  refine ⟨⟨fun ⟨order, hok⟩ ↦ ?_, fun hacyclic ↦ ?_⟩, fun order hok ↦ ⟨hschedule order hok, ?_⟩⟩
  · exact (hschedule order hok).acyclic hdeclared.distinct fun _ _ hneeds ↦
      needs_known hdeclared hneeds
  · have hall : nodeIds nodes ⊆ (KahnState.final sets nodes).ordered := by
      by_contra hleft
      obtain ⟨nodeId, heligible⟩ := exists_eligible hacyclic
        (fun _ _ _ hneeds ↦ (needs_known hdeclared hneeds).2) hleft
      have hentry := (hinv.ready (position nodes nodeId, nodeId)).mpr ⟨rfl, heligible⟩
      rw [hover] at hentry
      cases hentry
    have hlength : nodes.length ≤ (KahnState.final sets nodes).ordered.length := by
      have hle := (hdeclared.distinct.subperm hall).length_le
      rwa [nodeIds, List.length_map] at hle
    refine ⟨(KahnState.final sets nodes).ordered, ?_⟩
    unfold buildTopologicalOrder
    exact if_neg (not_not.mpr (le_antisymm hinv.length_le hlength))
  · intro other hother
    obtain ⟨hall, rfl⟩ := hspec order hok
    exact hinv.greedy.le position_injOn hdeclared.distinct hall hother

end Loop

/-- The constructor accepts exactly the well-declared acyclic lists of nodes; its order is the
lexicographically least schedule by declaration position, its loop ends, and neither depends on the
iteration order of its sets. -/
theorem construction_decides_acyclicity (sets : SetOrder) (nodes : List WorkflowNode) :
    ((∃ dag, WorkflowDag.build sets nodes = .ok dag) ↔
        WellDeclared nodes ∧ Acyclic (Needs nodes)) ∧
      (∀ dag, WorkflowDag.build sets nodes = .ok dag →
        dag.nodes = nodes ∧ IsSchedule (Needs nodes) (nodeIds nodes) dag.topologicalOrder ∧
          ∀ other, IsSchedule (Needs nodes) (nodeIds nodes) other →
            dag.topologicalOrder.map (position nodes) ≤ other.map (position nodes)) ∧
      (∀ others, WorkflowDag.build others nodes = WorkflowDag.build sets nodes) ∧
      (WellDeclared nodes → (KahnState.final sets nodes).ready = []) := by
  refine ⟨⟨?_, ?_⟩, fun dag hbuild ↦ ?_, fun others ↦ ?_, fun hdeclared ↦ ?_⟩
  · rintro ⟨dag, hbuild⟩
    obtain ⟨hdeclared, order, horder, -⟩ := (build_eq_ok sets nodes dag).mp hbuild
    exact ⟨hdeclared, (buildTopologicalOrder_eq_ok hdeclared sets).1.mp ⟨order, horder⟩⟩
  · rintro ⟨hdeclared, hacyclic⟩
    obtain ⟨order, horder⟩ := (buildTopologicalOrder_eq_ok hdeclared sets).1.mpr hacyclic
    exact ⟨⟨nodes, order⟩, (build_eq_ok sets nodes _).mpr ⟨hdeclared, order, horder, rfl⟩⟩
  · obtain ⟨hdeclared, order, horder, rfl⟩ := (build_eq_ok sets nodes dag).mp hbuild
    exact ⟨rfl, (buildTopologicalOrder_eq_ok hdeclared sets).2 order horder⟩
  · unfold WorkflowDag.build
    by_cases hdeclared : WellDeclared nodes
    · rw [buildTopologicalOrder_congr hdeclared others sets]
    · cases hchecks : checkNodes nodes [] with
      | error error => rfl
      | ok value =>
        cases hrest : checkDependencies (nodeIds nodes) nodes with
        | error error => rfl
        | ok value =>
          cases nodes with
          | nil => rfl
          | cons node rest =>
            obtain ⟨hdistinct, hfirst⟩ :=
              (checkNodes_eq_ok (node :: rest) [] List.nodup_nil).mp hchecks
            have hsecond := (checkDependencies_eq_ok _ _).mp hrest
            exact absurd ⟨List.cons_ne_nil _ _, fun other hmem ↦ (hfirst other hmem).1, hdistinct,
              fun other hmem ↦ (hfirst other hmem).2, fun other hmem ↦ (hsecond other hmem).1,
              fun other hmem ↦ (hsecond other hmem).2⟩ hdeclared
  · exact (kahn_final hdeclared sets).2

end AgentRuntime.Graph
