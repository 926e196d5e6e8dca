import Mathlib.Data.Finset.Lattice.Basic
import AgentRuntime.Graph.TopologicalOrder

/-!
# `descendants` is the closure under dependents

`WorkInv` is the invariant of the worklist: everything discovered is reachable from the roots, and
whatever is no longer pending has all its dependents discovered. Each round takes one node off the
worklist for good, so it is empty after as many rounds as there are nodes; what is discovered by
then is the set of reachable nodes, whatever order the sets are iterated and the worklist is emptied
in. The algebraic laws that selective replay relies on follow from that.
-/

set_option autoImplicit false
set_option relaxedAutoImplicit false

namespace AgentRuntime.Graph

open Library

/-- A path along dependent edges. -/
def Reach (nodes : List WorkflowNode) : String → String → Prop :=
  Relation.ReflTransGen fun current dependent ↦ Needs nodes dependent current

/-! ### The worklist -/

/-- Where the loop stands. -/
structure WorkInv (nodes : List WorkflowNode) (roots : List String) (work : Worklist) : Prop where
  rooted : ∀ root ∈ roots, root ∈ work.discovered
  sound : ∀ nodeId ∈ work.discovered, ∃ root ∈ roots, Reach nodes root nodeId
  known : work.discovered ⊆ nodeIds nodes
  distinct : work.discovered.Nodup
  pending : work.pending ⊆ work.discovered
  pending_distinct : work.pending.Nodup
  closed : ∀ nodeId ∈ work.discovered, nodeId ∉ work.pending →
    ∀ dependent, Needs nodes dependent nodeId → dependent ∈ work.discovered

/-- What a round over some dependents adds to both lists. -/
theorem foldl_discover (dependents : List String) (work : Worklist)
    (hdistinct : work.discovered.Nodup) (hpending : work.pending ⊆ work.discovered)
    (hpendingDistinct : work.pending.Nodup) :
    let after := dependents.foldl Worklist.discover work
    (∀ nodeId, nodeId ∈ after.discovered ↔ nodeId ∈ work.discovered ∨ nodeId ∈ dependents) ∧
      (∀ nodeId, nodeId ∈ after.pending ↔ nodeId ∈ work.pending ∨
        nodeId ∈ dependents ∧ nodeId ∉ work.discovered) ∧
      after.discovered.Nodup ∧ after.pending.Nodup ∧
      after.discovered.length + work.pending.length =
        work.discovered.length + after.pending.length := by
  induction dependents generalizing work with
  | nil => simp [hdistinct, hpendingDistinct]
  | cons head rest ih =>
    rw [List.foldl_cons]
    by_cases hhead : head ∈ work.discovered
    · have hsame : work.discover head = work := if_pos hhead
      rw [hsame]
      obtain ⟨hfound, hleft, hrest⟩ := ih work hdistinct hpending hpendingDistinct
      refine ⟨fun nodeId ↦ ?_, fun nodeId ↦ ?_, hrest⟩
      · rw [hfound, List.mem_cons]
        constructor
        · tauto
        · rintro (hold | rfl | hnew)
          · exact .inl hold
          · exact .inl hhead
          · exact .inr hnew
      · rw [hleft, List.mem_cons]
        constructor
        · tauto
        · rintro (hold | ⟨rfl | hnew, hnot⟩)
          · exact .inl hold
          · exact absurd hhead hnot
          · exact .inr ⟨hnew, hnot⟩
    · have hadded : work.discover head =
          ⟨work.discovered ++ [head], work.pending ++ [head]⟩ := if_neg hhead
      rw [hadded]
      have hdistinctAfter : (work.discovered ++ [head]).Nodup := by
        rw [← List.concat_eq_append, List.nodup_concat]
        exact ⟨hhead, hdistinct⟩
      have hpendingAfter : (work.pending ++ [head]).Nodup := by
        rw [← List.concat_eq_append, List.nodup_concat]
        exact ⟨fun hmem ↦ hhead (hpending hmem), hpendingDistinct⟩
      have hwithin : work.pending ++ [head] ⊆ work.discovered ++ [head] :=
        List.append_subset.mpr ⟨List.Subset.trans hpending (List.subset_append_left _ _),
          List.subset_append_right _ _⟩
      obtain ⟨hfound, hleft, hnodup, hleftNodup, hlength⟩ := ih
        ⟨work.discovered ++ [head], work.pending ++ [head]⟩ hdistinctAfter hwithin hpendingAfter
      refine ⟨fun nodeId ↦ ?_, fun nodeId ↦ ?_, hnodup, hleftNodup, ?_⟩
      · rw [hfound, List.mem_append, List.mem_singleton, List.mem_cons, or_assoc]
      · rw [hleft]
        simp only [List.mem_append, List.mem_cons, List.not_mem_nil, or_false, not_or]
        constructor
        · rintro ((hold | rfl) | ⟨hnew, hnot, -⟩)
          · exact .inl hold
          · exact .inr ⟨.inl rfl, hhead⟩
          · exact .inr ⟨.inr hnew, hnot⟩
        · rintro (hold | ⟨rfl | hnew, hnot⟩)
          · exact .inl (.inl hold)
          · exact .inl (.inr rfl)
          · by_cases hsame : nodeId = head
            · exact .inl (.inr hsame)
            · exact .inr ⟨hnew, hnot, hsame⟩
      · simp only [List.length_append, List.length_singleton] at hlength
        omega

section Closing

variable {nodes : List WorkflowNode} {roots : List String}

theorem workInv_initial (sets : SetOrder) (hknown : roots ⊆ nodeIds nodes) :
    WorkInv nodes roots (Worklist.initial sets roots) where
  rooted _ hmem := List.mem_dedup.mpr hmem
  sound nodeId hmem := ⟨nodeId, List.mem_dedup.mp hmem, .refl⟩
  known _ hmem := hknown (List.mem_dedup.mp hmem)
  distinct := List.nodup_dedup _
  pending := (sets.perm "" roots.dedup).subset
  pending_distinct := (sets.perm "" roots.dedup).nodup_iff.mpr (List.nodup_dedup _)
  closed _ hmem hnot := absurd ((sets.perm "" roots.dedup).mem_iff.mpr hmem) hnot

/-- One round: a node leaves the worklist for good. -/
theorem WorkInv.round (hdeclared : WellDeclared nodes) (sets : SetOrder) {work : Worklist}
    (hinv : WorkInv nodes roots work) {current : String} {rest : List String}
    (hperm : (current :: rest).Perm work.pending) :
    let after := (sets.iterate current (dependents nodes current)).foldl Worklist.discover
      { work with pending := rest }
    WorkInv nodes roots after ∧ after.discovered.length + work.pending.length =
      work.discovered.length + after.pending.length + 1 := by
  have hcurrent : current ∈ work.discovered := hinv.pending (hperm.subset List.mem_cons_self)
  have hwithin : rest ⊆ work.discovered :=
    fun nodeId hmem ↦ hinv.pending (hperm.subset (List.mem_cons_of_mem _ hmem))
  have hnodup : (current :: rest).Nodup := hperm.nodup_iff.mpr hinv.pending_distinct
  obtain ⟨hfound, hleft, hdistinct, hpending, hlength⟩ := foldl_discover
    (sets.iterate current (dependents nodes current)) { work with pending := rest } hinv.distinct
    hwithin (List.nodup_cons.mp hnodup).2
  have hdependent : ∀ nodeId, nodeId ∈ sets.iterate current (dependents nodes current) ↔
      Needs nodes nodeId current := fun nodeId ↦ by
    rw [(sets.perm current (dependents nodes current)).mem_iff, mem_dependents]
  refine ⟨⟨fun root hmem ↦ ?_, fun nodeId hmem ↦ ?_, fun nodeId hmem ↦ ?_, hdistinct,
    fun nodeId hmem ↦ ?_, hpending, fun nodeId hmem hnot dependent hneeds ↦ ?_⟩, ?_⟩
  · exact (hfound root).mpr (.inl (hinv.rooted root hmem))
  · rcases (hfound nodeId).mp hmem with hold | hnew
    · exact hinv.sound nodeId hold
    · obtain ⟨root, hroot, hpath⟩ := hinv.sound current hcurrent
      exact ⟨root, hroot, hpath.tail ((hdependent nodeId).mp hnew)⟩
  · rcases (hfound nodeId).mp hmem with hold | hnew
    · exact hinv.known hold
    · exact (needs_known hdeclared ((hdependent nodeId).mp hnew)).1
  · rcases (hleft nodeId).mp hmem with hold | ⟨hnew, -⟩
    · exact (hfound nodeId).mpr (.inl (hwithin hold))
    · exact (hfound nodeId).mpr (.inr hnew)
  · by_cases hsame : nodeId = current
    · exact (hfound dependent).mpr (.inr ((hdependent dependent).mpr (hsame ▸ hneeds)))
    · rcases (hfound nodeId).mp hmem with hold | hnew
      · have hdone : nodeId ∉ work.pending := by
          intro hin
          rcases List.mem_cons.mp (hperm.mem_iff.mpr hin) with hhead | htail
          · exact hsame hhead
          · exact hnot ((hleft nodeId).mpr (.inl htail))
        exact (hfound dependent).mpr (.inl (hinv.closed nodeId hold hdone dependent hneeds))
      · by_cases hold : nodeId ∈ work.discovered
        · have hdone : nodeId ∉ work.pending := by
            intro hin
            rcases List.mem_cons.mp (hperm.mem_iff.mpr hin) with hhead | htail
            · exact hsame hhead
            · exact hnot ((hleft nodeId).mpr (.inl htail))
          exact (hfound dependent).mpr (.inl (hinv.closed nodeId hold hdone dependent hneeds))
        · exact absurd ((hleft nodeId).mpr (.inr ⟨hnew, hold⟩)) hnot
  · have hpendingLength := hperm.length_eq
    rw [List.length_cons] at hpendingLength
    dsimp only at hlength
    omega

theorem WorkInv.close (hdeclared : WellDeclared nodes) (sets : SetOrder) (pops : PopOrder)
    (rounds : Nat) {work : Worklist} (hinv : WorkInv nodes roots work) :
    let after := Worklist.close sets pops nodes rounds work
    WorkInv nodes roots after ∧ (after.pending = [] ∨
      after.discovered.length + work.pending.length =
        work.discovered.length + after.pending.length + rounds) := by
  induction rounds generalizing work with
  | zero => exact ⟨hinv, .inr rfl⟩
  | succ rounds ih =>
    unfold Worklist.close
    cases hpop : pops.pop work.pending with
    | none =>
      refine ⟨hinv, .inl ?_⟩
      by_contra hne
      have hsome := pops.some_of_ne_nil work.pending hne
      rw [hpop] at hsome
      cases hsome
    | some popped =>
      obtain ⟨current, rest⟩ := popped
      obtain ⟨hnext, hlength⟩ := hinv.round hdeclared sets (pops.perm _ _ _ hpop)
      obtain ⟨hfinal, hend⟩ := ih hnext
      refine ⟨hfinal, hend.imp_right fun hmore ↦ ?_⟩
      dsimp only at hlength hmore ⊢
      omega

/-- The worklist is empty within as many rounds as there are nodes, and what is discovered by then
is what can be reached. -/
theorem close_final (hdeclared : WellDeclared nodes) (sets : SetOrder) (pops : PopOrder)
    (hknown : roots ⊆ nodeIds nodes) :
    let after := Worklist.close sets pops nodes nodes.length (Worklist.initial sets roots)
    after.pending = [] ∧
      ∀ nodeId, nodeId ∈ after.discovered ↔ ∃ root ∈ roots, Reach nodes root nodeId := by
  obtain ⟨hinv, hend⟩ := (workInv_initial sets hknown).close hdeclared sets pops nodes.length
  have hempty : (Worklist.close sets pops nodes nodes.length
      (Worklist.initial sets roots)).pending = [] := by
    refine hend.elim id fun hlength ↦ ?_
    have hle := (hinv.distinct.subperm hinv.known).length_le
    rw [nodeIds, List.length_map] at hle
    have hinitial : (Worklist.initial sets roots).pending.length =
        (Worklist.initial sets roots).discovered.length := (sets.perm "" roots.dedup).length_eq
    exact List.length_eq_zero_iff.mp (by omega)
  refine ⟨hempty, fun nodeId ↦ ⟨hinv.sound nodeId, ?_⟩⟩
  rintro ⟨root, hroot, hpath⟩
  induction hpath with
  | refl => exact hinv.rooted root hroot
  | tail _ hneeds ih => exact hinv.closed _ ih (hempty ▸ List.not_mem_nil) _ hneeds

end Closing

/-! ### The closure -/

/-- `descendants` finds this set, whatever order its sets are iterated and its worklist is emptied
in, and this set without the roots when it is asked to leave them out. -/
def Finds (dag : WorkflowDag) (roots : List String) (found : Finset String) : Prop :=
  ∀ sets pops, dag.descendantsBy sets pops roots true = .ok found ∧
    dag.descendantsBy sets pops roots false = .ok (found \ roots.toFinset)

section Closure

variable {dag : WorkflowDag} {roots : List String}

theorem requireKnown_eq_ok {nodes : List WorkflowNode} {ids : List String} :
    requireKnown nodes ids = .ok () ↔ ids ⊆ nodeIds nodes := by
  have hunknown : (ids.filter (· ∉ nodeIds nodes)).dedup = [] ↔ ids ⊆ nodeIds nodes := by
    rw [List.dedup_eq_nil, List.filter_eq_nil_iff]
    simp [List.subset_def]
  unfold requireKnown
  dsimp only
  rw [← hunknown]
  split_ifs with hsome
  · exact iff_of_false (by simp) hsome
  · exact iff_of_true rfl (not_not.mp hsome)

theorem descendantsBy_of_known (sets : SetOrder) (pops : PopOrder)
    (hknown : roots ⊆ nodeIds dag.nodes) (includeRoots : Bool) :
    dag.descendantsBy sets pops roots includeRoots =
      let found := (Worklist.close sets pops dag.nodes dag.nodes.length
        (Worklist.initial sets roots)).discovered.toFinset
      .ok (if includeRoots then found else found \ roots.toFinset) := by
  unfold WorkflowDag.descendantsBy
  rw [requireKnown_eq_ok.mpr hknown]
  rfl

/-- `descendants` of known roots is the set of what they reach. -/
theorem finds_iff (hdeclared : WellDeclared dag.nodes) (found : Finset String) :
    Finds dag roots found ↔ roots ⊆ nodeIds dag.nodes ∧
      ∀ nodeId, nodeId ∈ found ↔ ∃ root ∈ roots, Reach dag.nodes root nodeId := by
  constructor
  · intro hfinds
    have hok := (hfinds .insertion .last).1
    have hknown : roots ⊆ nodeIds dag.nodes := by
      by_contra hunknown
      unfold WorkflowDag.descendantsBy at hok
      cases hrequire : requireKnown dag.nodes roots with
      | error error =>
        rw [hrequire] at hok
        cases hok
      | ok value => exact hunknown (requireKnown_eq_ok.mp hrequire)
    refine ⟨hknown, fun nodeId ↦ ?_⟩
    rw [descendantsBy_of_known _ _ hknown] at hok
    rw [← Except.ok.inj hok, if_pos rfl, List.mem_toFinset]
    exact (close_final hdeclared .insertion .last hknown).2 nodeId
  · rintro ⟨hknown, hspec⟩ sets pops
    have hfound : (Worklist.close sets pops dag.nodes dag.nodes.length
        (Worklist.initial sets roots)).discovered.toFinset = found := by
      ext nodeId
      rw [List.mem_toFinset, (close_final hdeclared sets pops hknown).2, hspec]
    constructor
    · rw [descendantsBy_of_known _ _ hknown, hfound]
      rfl
    · rw [descendantsBy_of_known _ _ hknown, hfound]
      rfl

/-- For every valid graph and every known roots, `descendants` is the set of nodes reachable along
dependent edges; the set is closed under dependents, monotone and distributes over unions, a second
closure adds nothing, and the worklist loop ends. -/
theorem descendants_are_the_dependents_closure (building sets : SetOrder) (pops : PopOrder)
    {nodes : List WorkflowNode} (hbuild : WorkflowDag.build building nodes = .ok dag)
    (hknown : roots ⊆ nodeIds nodes) :
    (Worklist.close sets pops nodes nodes.length (Worklist.initial sets roots)).pending = [] ∧
      ∃ found, Finds dag roots found ∧
        (∀ nodeId, nodeId ∈ found ↔ ∃ root ∈ roots, Reach nodes root nodeId) ∧
        (∀ nodeId ∈ found, ∀ dependent ∈ dependents nodes nodeId, dependent ∈ found) ∧
        (∀ more larger, roots ⊆ more → Finds dag more larger → found ⊆ larger) ∧
        (∀ others second, Finds dag others second →
          Finds dag (roots ++ others) (found ∪ second)) ∧
        ∀ again : List String, again.toFinset = found → Finds dag again found := by
  obtain ⟨hdeclared, order, -, rfl⟩ := (build_eq_ok building nodes dag).mp hbuild
  obtain ⟨hover, hspec⟩ := close_final hdeclared sets pops hknown
  have hfinds (others : List String) (second : Finset String) :
      Finds ⟨nodes, order⟩ others second ↔ others ⊆ nodeIds nodes ∧
        ∀ nodeId, nodeId ∈ second ↔ ∃ root ∈ others, Reach nodes root nodeId :=
    finds_iff hdeclared second
  have hfound : ∀ nodeId, nodeId ∈ (Worklist.close sets pops nodes nodes.length
      (Worklist.initial sets roots)).discovered.toFinset ↔
        ∃ root ∈ roots, Reach nodes root nodeId := by
    intro nodeId
    rw [List.mem_toFinset, hspec]
  refine ⟨hover, _, (hfinds roots _).mpr ⟨hknown, hfound⟩, hfound, ?_, ?_, ?_, ?_⟩
  · intro nodeId hmem dependent hdependent
    obtain ⟨root, hroot, hpath⟩ := (hfound nodeId).mp hmem
    exact (hfound dependent).mpr ⟨root, hroot, hpath.tail (mem_dependents.mp hdependent)⟩
  · intro more larger hmore hlarger nodeId hmem
    obtain ⟨root, hroot, hpath⟩ := (hfound nodeId).mp hmem
    exact (((hfinds more larger).mp hlarger).2 nodeId).mpr ⟨root, hmore hroot, hpath⟩
  · intro others second hsecond
    obtain ⟨hothers, hsecondSpec⟩ := (hfinds others second).mp hsecond
    refine (hfinds _ _).mpr ⟨List.append_subset.mpr ⟨hknown, hothers⟩, fun nodeId ↦ ?_⟩
    rw [Finset.mem_union, hfound, hsecondSpec]
    simp only [List.mem_append, or_and_right, exists_or]
  · intro again hagain
    have hmem : ∀ nodeId, nodeId ∈ again ↔ ∃ root ∈ roots, Reach nodes root nodeId := by
      intro nodeId
      rw [← hfound, ← hagain, List.mem_toFinset]
    refine (hfinds _ _).mpr ⟨fun nodeId hin ↦ ?_, fun nodeId ↦ (hfound nodeId).trans ?_⟩
    · obtain ⟨hinv, -⟩ := (workInv_initial sets hknown).close hdeclared sets pops nodes.length
      exact hinv.known ((hspec nodeId).mpr ((hmem nodeId).mp hin))
    · constructor
      · exact fun hreach ↦ ⟨nodeId, (hmem nodeId).mpr hreach, .refl⟩
      · rintro ⟨middle, hmiddle, hlast⟩
        obtain ⟨root, hroot, hfirst⟩ := (hmem middle).mp hmiddle
        exact ⟨root, hroot, hfirst.trans hlast⟩

end Closure

/-- A graph whose last node depends on the first through the second. -/
def chainNodes : List WorkflowNode := [⟨"load", []⟩, ⟨"check", ["load"]⟩, ⟨"report", ["check"]⟩]

theorem chain_descendants_are_the_closure :
    ∃ found, Finds ⟨chainNodes, ["load", "check", "report"]⟩ ["check", "report"] found ∧
      ∀ nodeId, nodeId ∈ found ↔
        ∃ root ∈ ["check", "report"], Reach chainNodes root nodeId := by
  have hbuild : WorkflowDag.build .insertion chainNodes =
      .ok ⟨chainNodes, ["load", "check", "report"]⟩ := by decide +kernel
  obtain ⟨-, found, hfinds, hspec, -⟩ :=
    descendants_are_the_dependents_closure .insertion .insertion
    .last hbuild (show ["check", "report"] ⊆ nodeIds chainNodes by decide)
  exact ⟨found, hfinds, hspec⟩

end AgentRuntime.Graph
