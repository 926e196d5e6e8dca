import AgentRuntime.Travel.FindingOrder

/-!
# When `FindingReducer` keeps every confirmed problem

Duplicates are dropped by severity before the verdicts are looked at: the first of the gravest
findings with a key is kept, and only if that one is confirmed does the key get a directive. So a
confirmed problem may be shadowed by a plausible duplicate that is graver, or as grave and earlier,
and in the second case the order of the reports decides whether there is a directive.

`reduction_is_faithful_iff` says exactly for which reports the reduction does what it should in
every order of them: every confirmed problem has a confirmed finding among the gravest of some key
with its action and items, equally grave duplicates agree on whether they are confirmed, and no two
keys can be listed in either order.
-/

set_option autoImplicit false
set_option relaxedAutoImplicit false

namespace AgentRuntime.Travel

open Library

/-! ### The specification -/

/-- The same items, however often. -/
def SameItems (items others : List String) : Prop := ∀ item, item ∈ items ↔ item ∈ others

/-- Findings between which a reduction may choose: duplicates of one severity. -/
def Interchangeable (finding other : ReviewFinding) : Prop :=
  Duplicates finding other ∧ finding.severity = other.severity

/-- The finding is grouped under this action and these targets. -/
def RoutesTo (slot : ReplanAction × List String) (finding : ReviewFinding) : Prop :=
  finding.verdict = .confirmed ∧ actions finding.findingType = some slot.1 ∧
    finding.targets = slot.2

instance (slot : ReplanAction × List String) : DecidablePred (RoutesTo slot) :=
  fun finding ↦ inferInstanceAs (Decidable (finding.verdict = .confirmed ∧
    actions finding.findingType = some slot.1 ∧ finding.targets = slot.2))

/-- The kept findings that a directive is about. -/
def citedBy (kept : List ReviewFinding) (given : ReplanDirective) : List ReviewFinding :=
  kept.filter (RoutesTo (given.actionType, given.targetItemIds))

/-- Two directives are the same but for their ids and the choice of the findings they are about. -/
structure SameDirective (kept others : List ReviewFinding) (given other : ReplanDirective) :
    Prop where
  actionType : given.actionType = other.actionType
  targetItemIds : given.targetItemIds = other.targetItemIds
  preserveItemIds : given.preserveItemIds = other.preserveItemIds
  cited : List.Forall₂ Interchangeable (citedBy kept given) (citedBy others other)

/-- What a reduction should do with the reports. -/
structure FaithfulReduction (reports : List ReviewerReport) : Prop where
  /-- Every confirmed finding with an action gets a directive for its items. -/
  represented : ∀ uuid, ∀ finding ∈ allFindings reports, finding.verdict = .confirmed →
    ∀ action, actions finding.findingType = some action →
      ∃ directive ∈ (reduce uuid reports).directives, directive.actionType = action ∧
        SameItems directive.targetItemIds finding.affectedPlanItemIds
  /-- A directive cites the findings that it is about, and these are confirmed. -/
  cited : ∀ uuid, ∀ directive ∈ (reduce uuid reports).directives,
    directive.findingIds =
        (citedBy (reduce uuid reports).findings directive).map ReviewFinding.findingId ∧
      directive.reason = String.intercalate "; "
        ((citedBy (reduce uuid reports).findings directive).map ReviewFinding.summary) ∧
      ∀ finding ∈ citedBy (reduce uuid reports).findings directive, finding.verdict = .confirmed
  /-- No duplicates are left. -/
  distinct : ∀ uuid, (reduce uuid reports).findings.Pairwise fun finding other ↦
    ¬ Duplicates finding other
  /-- A kept finding is a gravest one among its duplicates that were not refuted. -/
  gravest : ∀ uuid, ∀ finding ∈ (reduce uuid reports).findings, Gravest reports finding
  /-- Every other order of the reports has the same output, up to the ids of the directives and the
  choice between interchangeable findings. -/
  settled : ∀ uuid otherUuid others, Reordered reports others →
    List.Forall₂ Interchangeable (reduce uuid reports).findings
        (reduce otherUuid others).findings ∧
      List.Forall₂ (SameDirective (reduce uuid reports).findings (reduce otherUuid others).findings)
        (reduce uuid reports).directives (reduce otherUuid others).directives

/-- Every confirmed finding has a confirmed one with its action and items among the gravest of some
key. -/
def Unshadowed (reports : List ReviewerReport) : Prop :=
  ∀ finding ∈ allFindings reports, finding.verdict = .confirmed →
    ∀ action, actions finding.findingType = some action →
      ∃ leader, Gravest reports leader ∧ leader.verdict = .confirmed ∧
        actions leader.findingType = some action ∧
        SameItems leader.affectedPlanItemIds finding.affectedPlanItemIds

/-- Of the gravest duplicates with an action all are confirmed or none. -/
def Unanimous (reports : List ReviewerReport) : Prop :=
  ∀ finding other, Gravest reports finding → Gravest reports other → Duplicates finding other →
    ∀ action, actions finding.findingType = some action →
      finding.verdict = .confirmed → other.verdict = .confirmed

/-- No two keys can be listed in either order. -/
def OrderFixed (reports : List ReviewerReport) : Prop :=
  ∀ finding other laterFinding laterOther, MayPrecede reports finding other →
    Duplicates finding laterFinding → Duplicates other laterOther →
      ¬ MayPrecede reports laterOther laterFinding

/-! ### What becomes of the kept findings -/

/-- What one more finding does to a group. -/
theorem find_group (grouped : Table (ReplanAction × List String) (List ReviewFinding))
    (finding : ReviewFinding) (slot : ReplanAction × List String) :
    (group grouped finding).find slot =
      if RoutesTo slot finding then some ((grouped.find slot).getD [] ++ [finding])
      else grouped.find slot := by
  unfold group
  by_cases hconfirmed : finding.verdict = .confirmed
  · rw [if_neg (not_not.mpr hconfirmed)]
    cases haction : actions finding.findingType with
    | none =>
      have hmiss : ¬ RoutesTo slot finding := fun hroutes ↦ by
        rw [RoutesTo, haction] at hroutes
        cases hroutes.2.1
      rw [if_neg hmiss]
    | some action =>
      dsimp only
      have hroutes : RoutesTo slot finding ↔ slot = (action, finding.targets) := by
        unfold RoutesTo
        rw [haction, Option.some.injEq, Prod.ext_iff]
        exact ⟨fun h ↦ ⟨h.2.1.symm, h.2.2.symm⟩, fun h ↦ ⟨hconfirmed, h.1.symm, h.2.symm⟩⟩
      by_cases hslot : slot = (action, finding.targets)
      · rw [if_pos (hroutes.mpr hslot), ← hslot]
        cases hfind : grouped.find slot with
        | none => simp [Table.find_insert_of_fresh _ _ _ _ hfind]
        | some findings => simp [hfind]
      · rw [if_neg (mt hroutes.mp hslot)]
        cases hfind : grouped.find (action, finding.targets) with
        | none => simp [Table.find_insert_of_fresh _ _ _ _ hfind, hslot]
        | some findings => simp [hslot]
  · have hmiss : ¬ RoutesTo slot finding := fun hroutes ↦ hconfirmed hroutes.1
    rw [if_pos hconfirmed, if_neg hmiss]

/-- A group holds the findings that are routed to it, in their order. -/
theorem find_groups (findings : List ReviewFinding) (slot : ReplanAction × List String) :
    (findings.foldl group .empty).find slot =
      if findings.filter (RoutesTo slot) = [] then none
      else some (findings.filter (RoutesTo slot)) := by
  induction findings using List.reverseRecOn with
  | nil => rfl
  | append_singleton findings last ih =>
    rw [List.foldl_concat, find_group, ih, List.filter_append]
    by_cases hroutes : RoutesTo slot last
    · rw [if_pos hroutes]
      by_cases hnone : findings.filter (RoutesTo slot) = []
      · simp [hnone, hroutes]
      · simp [hnone, hroutes]
    · simp [hroutes]

theorem mem_sortedGroups {findings : List ReviewFinding} {slot : ReplanAction × List String}
    {cited : List ReviewFinding} :
    (slot, cited) ∈ sortedGroups findings ↔
      cited = findings.filter (RoutesTo slot) ∧ cited ≠ [] := by
  unfold sortedGroups
  rw [List.mem_insertionSort, Table.mem_rows_iff, find_groups]
  split_ifs with hnone
  · simp [hnone]
  · rw [Option.some.injEq, eq_comm]
    exact ⟨fun heq ↦ ⟨heq, heq ▸ hnone⟩, And.left⟩

/-- The directives are those of the groups. -/
theorem mem_directives {uuid : Nat → String} {reports : List ReviewerReport}
    {given : ReplanDirective} : given ∈ (reduce uuid reports).directives →
      ∃ id slot, given = directive id (slot, (keptFindings reports).filter (RoutesTo slot)) ∧
        (keptFindings reports).filter (RoutesTo slot) ≠ [] := by
  intro hmem
  obtain ⟨index, hindex, rfl⟩ := List.mem_mapIdx.mp hmem
  obtain ⟨hcited, hsome⟩ := mem_sortedGroups.mp (List.getElem_mem hindex)
  exact ⟨uuid index, _, congrArg _ (Prod.ext rfl hcited), hcited ▸ hsome⟩

theorem exists_directive (uuid : Nat → String) {reports : List ReviewerReport}
    {finding : ReviewFinding} {slot : ReplanAction × List String}
    (hkept : finding ∈ keptFindings reports) (hroutes : RoutesTo slot finding) :
    ∃ given ∈ (reduce uuid reports).directives,
      given.actionType = slot.1 ∧ given.targetItemIds = slot.2 := by
  have hcited : finding ∈ (keptFindings reports).filter (RoutesTo slot) :=
    List.mem_filter.mpr ⟨hkept, by simpa using hroutes⟩
  have hgroup : (slot, (keptFindings reports).filter (RoutesTo slot)) ∈
      sortedGroups (keptFindings reports) :=
    mem_sortedGroups.mpr ⟨rfl, List.ne_nil_of_mem hcited⟩
  obtain ⟨index, hindex, hget⟩ := List.mem_iff_getElem.mp hgroup
  refine ⟨directive (uuid index) _, List.mem_mapIdx.mpr ⟨index, hindex, rfl⟩, ?_, ?_⟩
  · rw [hget]
    rfl
  · rw [hget]
    rfl

/-! ### The same output -/

section Same

variable {reports others : List ReviewerReport}

theorem sortedGroups_slots (findings : List ReviewFinding) :
    sortedGroups findings = ((sortedGroups findings).map Prod.fst).map fun slot ↦
      (slot, findings.filter (RoutesTo slot)) := by
  rw [List.map_map]
  refine ((List.map_congr_left fun entry hmem ↦ ?_).trans (List.map_id _)).symm
  exact Prod.ext rfl (mem_sortedGroups.mp hmem).1.symm

theorem value_injective : Function.Injective ReplanAction.value := by
  intro action other heq
  cases action <;> cases other <;> first | rfl | exact absurd heq (by decide)

/-- The slots of the groups are told by their members. -/
theorem slots_eq {findings choices : List ReviewFinding}
    (hsame : ∀ slot, findings.filter (RoutesTo slot) = [] ↔ choices.filter (RoutesTo slot) = []) :
    (sortedGroups findings).map Prod.fst = (sortedGroups choices).map Prod.fst := by
  have hmem (given : List ReviewFinding) (slot : ReplanAction × List String) :
      slot ∈ (sortedGroups given).map Prod.fst ↔ given.filter (RoutesTo slot) ≠ [] := by
    rw [List.mem_map]
    constructor
    · rintro ⟨entry, hentry, rfl⟩
      obtain ⟨hcited, hsome⟩ := mem_sortedGroups.mp hentry
      rw [← hcited]
      exact hsome
    · exact fun hsome ↦ ⟨(slot, _), mem_sortedGroups.mpr ⟨rfl, hsome⟩, rfl⟩
  have hnodup (given : List ReviewFinding) : ((sortedGroups given).map Prod.fst).Nodup := by
    unfold sortedGroups
    rw [((List.perm_insertionSort _ _).map _).nodup_iff]
    exact Table.nodup _
  have hsorted (given : List ReviewFinding) : ((sortedGroups given).map Prod.fst).Pairwise
      fun left right ↦ toLex (left.1.value, left.2) ≤ toLex (right.1.value, right.2) :=
    List.pairwise_map.mpr (List.pairwise_insertionSort
      (fun left right : (ReplanAction × List String) × List ReviewFinding ↦
        toLex (left.1.1.value, left.1.2) ≤ toLex (right.1.1.value, right.1.2)) _)
  refine List.Perm.eq_of_pairwise ?_ (hsorted findings) (hsorted choices)
    ((List.perm_ext_iff_of_nodup (hnodup findings) (hnodup choices)).mpr fun slot ↦ ?_)
  · rintro ⟨action, items⟩ ⟨other, otherItems⟩ - - hle hge
    obtain ⟨hvalue, rfl⟩ := Prod.mk.inj (toLex.injective (le_antisymm hle hge))
    exact Prod.ext (value_injective hvalue) rfl
  · rw [hmem, hmem, ne_eq, ne_eq, not_iff_not]
    exact hsame slot

theorem forall₂_mapIdx {α β γ δ : Type} {r : α → β → Prop} {s : γ → δ → Prop} {lefts : List α}
    {rights : List β} (hrelated : List.Forall₂ r lefts rights) (f : Nat → α → γ) (g : Nat → β → δ)
    (hmaps : ∀ index left right, r left right → s (f index left) (g index right)) :
    List.Forall₂ s (lefts.mapIdx f) (rights.mapIdx g) := by
  induction hrelated generalizing f g with
  | nil => exact .nil
  | cons hhead _ ih =>
    rw [List.mapIdx_cons, List.mapIdx_cons]
    exact .cons (hmaps 0 _ _ hhead) (ih _ _ fun index ↦ hmaps (index + 1))

theorem exists_related {α β : Type} {r : α → β → Prop} {lefts : List α} {rights : List β}
    (hrelated : List.Forall₂ r lefts rights) {left : α} (hmem : left ∈ lefts) :
    ∃ right ∈ rights, r left right := by
  induction hrelated with
  | nil => cases hmem
  | @cons first second _ _ hhead _ ih =>
    rcases List.mem_cons.mp hmem with rfl | hlater
    · exact ⟨second, List.mem_cons_self, hhead⟩
    · obtain ⟨right, hright, hpair⟩ := ih hlater
      exact ⟨right, List.mem_cons_of_mem _ hright, hpair⟩

/-- Kept findings that may be exchanged are routed alike. -/
theorem routesTo_iff (hunanimous : Unanimous reports) {finding other : ReviewFinding}
    (hfinding : Gravest reports finding) (hother : Gravest reports other)
    (hduplicates : Duplicates finding other) (slot : ReplanAction × List String) :
    RoutesTo slot finding ↔ RoutesTo slot other := by
  have hback : Duplicates other finding :=
    (key_eq_iff _ _).mp ((key_eq_iff _ _).mpr hduplicates).symm
  have htargets : finding.targets = other.targets := by
    unfold ReviewFinding.targets
    refine List.Perm.eq_of_pairwise' (List.pairwise_insertionSort _ _)
      (List.pairwise_insertionSort _ _) ?_
    exact ((List.perm_insertionSort _ _).trans hduplicates.2.2.dedup).trans
      (List.perm_insertionSort _ _).symm
  constructor
  · rintro ⟨hconfirmed, haction, hslot⟩
    exact ⟨hunanimous finding other hfinding hother hduplicates _ haction hconfirmed,
      hduplicates.2.1 ▸ haction, htargets ▸ hslot⟩
  · rintro ⟨hconfirmed, haction, hslot⟩
    exact ⟨hunanimous other finding hother hfinding hback _ haction hconfirmed,
      hback.2.1 ▸ haction, htargets ▸ hslot⟩

/-- Lists of kept findings that may be exchanged lead to the same directives. -/
theorem sameDirectives (hunanimous : Unanimous reports) (hreordered : Reordered reports others)
    (hkept : List.Forall₂ Interchangeable (keptFindings reports) (keptFindings others))
    (uuid otherUuid : Nat → String) :
    List.Forall₂ (SameDirective (keptFindings reports) (keptFindings others))
      (reduce uuid reports).directives (reduce otherUuid others).directives := by
  have hrouted : List.Forall₂ (fun finding other ↦ Interchangeable finding other ∧
      ∀ slot, RoutesTo slot finding ↔ RoutesTo slot other)
      (keptFindings reports) (keptFindings others) := by
    have hleft : List.Forall₂ (fun finding other ↦ Gravest reports finding ∧
        Interchangeable finding other) (keptFindings reports) (keptFindings others) :=
      (List.forall₂_and_left _ _).mpr ⟨fun finding hmem ↦
        ((mem_keptFindings _ _).mp hmem).gravest, hkept⟩
    have hright : List.Forall₂ (fun other finding ↦ Gravest reports other ∧
        Gravest reports finding ∧ Interchangeable finding other)
        (keptFindings others) (keptFindings reports) :=
      (List.forall₂_and_left _ _).mpr ⟨fun other hmem ↦
        (hreordered.gravest _).mpr ((mem_keptFindings _ _).mp hmem).gravest, hleft.flip⟩
    refine hright.flip.imp fun finding other hboth ↦ ?_
    obtain ⟨hother, hfinding, hexchange⟩ := hboth
    exact ⟨hexchange, routesTo_iff hunanimous hfinding hother hexchange.1⟩
  have hcited (slot : ReplanAction × List String) : List.Forall₂ Interchangeable
      ((keptFindings reports).filter (RoutesTo slot))
      ((keptFindings others).filter (RoutesTo slot)) := by
    have hfiltered := List.rel_filter (p := fun finding ↦ decide (RoutesTo slot finding))
      (q := fun finding ↦ decide (RoutesTo slot finding))
      (fun finding other hboth ↦ by simpa using hboth.2 slot) hrouted
    exact hfiltered.imp fun _ _ hboth ↦ hboth.1
  have hslots : (sortedGroups (keptFindings reports)).map Prod.fst =
      (sortedGroups (keptFindings others)).map Prod.fst := slots_eq fun slot ↦ by
    rw [← List.length_eq_zero_iff, ← List.length_eq_zero_iff, (hcited slot).length_eq]
  have hgroups : List.Forall₂ (fun entry other ↦ entry.1 = other.1 ∧
      entry.2 = (keptFindings reports).filter (RoutesTo entry.1) ∧
      other.2 = (keptFindings others).filter (RoutesTo other.1))
      (sortedGroups (keptFindings reports)) (sortedGroups (keptFindings others)) := by
    rw [sortedGroups_slots (keptFindings reports), sortedGroups_slots (keptFindings others), hslots,
      List.forall₂_map_left_iff, List.forall₂_map_right_iff, List.forall₂_same]
    exact fun slot _ ↦ ⟨rfl, rfl, rfl⟩
  refine forall₂_mapIdx hgroups _ _ fun index entry other hentry ↦ ?_
  obtain ⟨hslot, -, -⟩ := hentry
  refine ⟨congrArg Prod.fst hslot, congrArg Prod.snd hslot, rfl, ?_⟩
  show List.Forall₂ Interchangeable ((keptFindings reports).filter (RoutesTo entry.1))
    ((keptFindings others).filter (RoutesTo other.1))
  rw [← hslot]
  exact hcited entry.1

end Same

/-! ### The order of the output -/

section Order

variable {reports others : List ReviewerReport}

theorem mem_keptKeys (reports : List ReviewerReport) (key : FindingKey) :
    key ∈ (keptFindings reports).map ReviewFinding.key ↔
      key ∈ (liveFindings reports).map ReviewFinding.key := by
  rw [List.mem_map, List.mem_map]
  constructor
  · rintro ⟨finding, hkept, rfl⟩
    exact ⟨finding, ((mem_keptFindings _ _).mp hkept).mem, rfl⟩
  · rintro ⟨finding, hlive, rfl⟩
    obtain ⟨leader, hleading, hkey⟩ := exists_leading hlive
    exact ⟨leader, (mem_keptFindings _ _).mpr hleading, hkey⟩

/-- Two keys that are listed in different orders by two orders of the reports. -/
theorem not_orderFixed (hreordered : Reordered reports others)
    {finding other laterFinding laterOther : ReviewFinding}
    (hfirst : finding.key = laterFinding.key) (hsecond : other.key = laterOther.key)
    (hpair : [finding, other].Sublist (keptFindings reports))
    (hswapped : [laterOther, laterFinding].Sublist (keptFindings others)) :
    ¬ OrderFixed reports := by
  intro hfixed
  have hleading : Leading reports finding := (mem_keptFindings _ _).mp (hpair.subset (by simp))
  have hother : Leading reports other := (mem_keptFindings _ _).mp (hpair.subset (by simp))
  have hlater : Leading others laterFinding :=
    (mem_keptFindings _ _).mp (hswapped.subset (by simp))
  have hlaterOther : Leading others laterOther :=
    (mem_keptFindings _ _).mp (hswapped.subset (by simp))
  have hkey : finding.key ≠ other.key := by
    have hnodup := hpair.map ReviewFinding.key |>.nodup (nodup_keptFindings reports)
    simpa using hnodup
  have hseverity : finding.severity = laterFinding.severity :=
    hleading.gravest.severity_eq ((hreordered.gravest _).mpr hlater.gravest) hfirst
  have hotherSeverity : other.severity = laterOther.severity :=
    hother.gravest.severity_eq ((hreordered.gravest _).mpr hlaterOther.gravest) hsecond
  have hrule : finding.ruleId = laterFinding.ruleId := congrArg Prod.fst hfirst
  have hotherRule : other.ruleId = laterOther.ruleId := congrArg Prod.fst hsecond
  -- both orders sort by severity and rule first, so the two keys agree in them
  have hle := sortKey_le_of_pair hpair
  have hge := sortKey_le_of_pair hswapped
  have hsame : finding.severity = other.severity ∧ finding.ruleId = other.ruleId := by
    unfold ReviewFinding.sortKey at hle hge
    rw [← hseverity, ← hotherSeverity, ← hrule, ← hotherRule] at hge
    rw [Prod.Lex.toLex_le_toLex, Prod.Lex.toLex_le_toLex] at hle hge
    rcases hle with hless | ⟨hequal, hle⟩
    · rcases hge with hmore | ⟨hback, -⟩
      · exact absurd hless hmore.not_gt
      · exact absurd hback hless.ne'
    · refine ⟨severityOrder_injective hequal, ?_⟩
      rcases hge with hmore | ⟨-, hge⟩
      · exact absurd hequal hmore.ne'
      · rcases hle with hless | ⟨hrules, -⟩
        · rcases hge with hmore | ⟨hback, -⟩
          · exact absurd hless hmore.not_gt
          · exact absurd hback hless.ne'
        · exact hrules
  have hprecede : MayPrecede reports finding other :=
    mayPrecede_of_pair hleading hother hkey hsame.1 hsame.2 hpair
  have hreverse : MayPrecede others laterOther laterFinding := by
    refine mayPrecede_of_pair hlaterOther hlater ?_ ?_ ?_ hswapped
    · rw [← hfirst, ← hsecond]
      exact hkey.symm
    · rw [← hseverity, ← hotherSeverity, hsame.1]
    · rw [← hrule, ← hotherRule, hsame.2]
  exact hfixed finding other laterFinding laterOther hprecede ((key_eq_iff _ _).mp hfirst)
    ((key_eq_iff _ _).mp hsecond) (hreordered.mayPrecede hreverse)

/-- The kept findings of another order stand in the same places. -/
theorem kept_interchangeable (hfixed : OrderFixed reports) (hreordered : Reordered reports others) :
    List.Forall₂ Interchangeable (keptFindings reports) (keptFindings others) := by
  have hkeys : (keptFindings reports).map ReviewFinding.key =
      (keptFindings others).map ReviewFinding.key := by
    refine eq_of_pairs_agree (nodup_keptFindings reports)
      ((List.perm_ext_iff_of_nodup (nodup_keptFindings reports)
        (nodup_keptFindings others)).mpr fun key ↦ ?_) fun first second hpair hswapped ↦ ?_
    · rw [mem_keptKeys, mem_keptKeys, List.mem_map, List.mem_map]
      exact exists_congr fun finding ↦ and_congr_left fun _ ↦ hreordered.mem_live finding
    · obtain ⟨pair, hsub, hfirst⟩ := List.sublist_map_iff.mp hpair
      obtain ⟨swapped, hsubSwapped, hsecond⟩ := List.sublist_map_iff.mp hswapped
      obtain ⟨finding, tail, rfl, rfl, hrest⟩ := List.map_eq_cons_iff.mp hfirst.symm
      obtain ⟨other, last, rfl, rfl, hnil⟩ := List.map_eq_cons_iff.mp hrest
      obtain rfl := List.map_eq_nil_iff.mp hnil
      obtain ⟨laterOther, laterTail, rfl, hkey, hlaterRest⟩ := List.map_eq_cons_iff.mp hsecond.symm
      obtain ⟨laterFinding, laterLast, rfl, hlaterKey, hlaterNil⟩ :=
        List.map_eq_cons_iff.mp hlaterRest
      obtain rfl := List.map_eq_nil_iff.mp hlaterNil
      exact not_orderFixed hreordered hlaterKey.symm hkey.symm hsub hsubSwapped hfixed
  have hsame : List.Forall₂ (fun finding other ↦ finding.key = other.key)
      (keptFindings reports) (keptFindings others) := by
    have hequal : List.Forall₂ (· = ·) ((keptFindings reports).map ReviewFinding.key)
        ((keptFindings others).map ReviewFinding.key) := by
      rw [List.forall₂_eq_eq_eq]
      exact hkeys
    rwa [List.forall₂_map_left_iff, List.forall₂_map_right_iff] at hequal
  have hleft : List.Forall₂ (fun finding other ↦ Gravest reports finding ∧
      finding.key = other.key) (keptFindings reports) (keptFindings others) :=
    (List.forall₂_and_left _ _).mpr ⟨fun finding hmem ↦
      ((mem_keptFindings _ _).mp hmem).gravest, hsame⟩
  have hright : List.Forall₂ (fun other finding ↦ Gravest reports other ∧
      Gravest reports finding ∧ finding.key = other.key)
      (keptFindings others) (keptFindings reports) :=
    (List.forall₂_and_left _ _).mpr ⟨fun other hmem ↦
      (hreordered.gravest _).mpr ((mem_keptFindings _ _).mp hmem).gravest, hleft.flip⟩
  refine hright.flip.imp fun finding other hboth ↦ ?_
  obtain ⟨hother, hfinding, hkey⟩ := hboth
  exact ⟨(key_eq_iff _ _).mp hkey, hfinding.severity_eq hother hkey⟩

theorem keys_eq_of_interchangeable
    (hkept : List.Forall₂ Interchangeable (keptFindings reports) (keptFindings others)) :
    (keptFindings reports).map ReviewFinding.key = (keptFindings others).map ReviewFinding.key := by
  rw [← List.forall₂_eq_eq_eq, List.forall₂_map_left_iff, List.forall₂_map_right_iff]
  exact hkept.imp fun finding other hexchange ↦ (key_eq_iff _ _).mpr hexchange.1

end Order

/-! ### The result -/

theorem mem_targets (finding : ReviewFinding) :
    SameItems finding.targets finding.affectedPlanItemIds := by
  intro item
  unfold ReviewFinding.targets
  rw [List.mem_insertionSort, List.mem_dedup]

/-- A confirmed finding gets its directive exactly when a confirmed finding with its action and
items leads its key. -/
theorem represented_iff (uuid : Nat → String) (reports : List ReviewerReport)
    (action : ReplanAction) (items : List String) :
    (∃ given ∈ (reduce uuid reports).directives, given.actionType = action ∧
        SameItems given.targetItemIds items) ↔
      ∃ leader, Leading reports leader ∧ leader.verdict = .confirmed ∧
        actions leader.findingType = some action ∧ SameItems leader.affectedPlanItemIds items := by
  constructor
  · rintro ⟨given, hmem, haction, hitems⟩
    obtain ⟨id, slot, rfl, hsome⟩ := mem_directives hmem
    obtain ⟨leader, hcited⟩ := List.exists_mem_of_ne_nil _ hsome
    obtain ⟨hkept, hroutes⟩ := List.mem_filter.mp hcited
    obtain ⟨hconfirmed, hleader, htargets⟩ := of_decide_eq_true hroutes
    refine ⟨leader, (mem_keptFindings _ _).mp hkept, hconfirmed, haction ▸ hleader, fun item ↦ ?_⟩
    rw [← mem_targets leader item, htargets]
    exact hitems item
  · rintro ⟨leader, hleading, hconfirmed, haction, hitems⟩
    have hroutes : RoutesTo (action, leader.targets) leader := ⟨hconfirmed, haction, rfl⟩
    obtain ⟨given, hmem, hgiven, htargets⟩ :=
      exists_directive uuid ((mem_keptFindings _ _).mpr hleading) hroutes
    refine ⟨given, hmem, hgiven, fun item ↦ ?_⟩
    rw [htargets, mem_targets leader item, hitems item]

/-- An output that no order changes leaves no choice between a confirmed finding and another. -/
theorem FaithfulReduction.unanimous {reports : List ReviewerReport}
    (hfaithful : FaithfulReduction reports) : Unanimous reports := by
  intro finding other hfinding hother hduplicates action haction hconfirmed
  obtain ⟨others, hreordered, hleading⟩ := exists_order_leading hfinding
  obtain ⟨thirds, hreorderedThird, hleadingThird⟩ := exists_order_leading hother
  let uuid : Nat → String := fun _ ↦ ""
  obtain ⟨-, hdirectives⟩ := hfaithful.settled uuid uuid others hreordered
  obtain ⟨-, hdirectivesThird⟩ := hfaithful.settled uuid uuid thirds hreorderedThird
  have hroutes : RoutesTo (action, finding.targets) finding := ⟨hconfirmed, haction, rfl⟩
  have hkept : finding ∈ keptFindings others := (mem_keptFindings _ _).mpr hleading
  -- the directive where `finding` leads, the one of the given order, and the one where `other` does
  obtain ⟨given, hgiven, hgivenAction, hgivenTargets⟩ := exists_directive uuid hkept hroutes
  have hcited : finding ∈ citedBy (keptFindings others) given := by
    unfold citedBy
    rw [hgivenAction, hgivenTargets]
    exact List.mem_filter.mpr ⟨hkept, by simpa using hroutes⟩
  obtain ⟨middle, hmiddle, hsame⟩ := exists_related hdirectives.flip hgiven
  obtain ⟨final, hfinal, hsameFinal⟩ := exists_related hdirectivesThird hmiddle
  obtain ⟨chosen, hchosen, hexchange⟩ := exists_related hsame.cited.flip hcited
  obtain ⟨last, hlast, hexchangeLast⟩ := exists_related hsameFinal.cited hchosen
  obtain ⟨hlastKept, hlastRoutes⟩ := List.mem_filter.mp hlast
  have hlastLeading : Leading thirds last := (mem_keptFindings _ _).mp hlastKept
  have hkey : last.key = other.key := by
    rw [← (key_eq_iff _ _).mpr hexchangeLast.1, (key_eq_iff _ _).mpr hexchange.1,
      (key_eq_iff _ _).mpr hduplicates]
  rw [← hlastLeading.unique hleadingThird hkey]
  exact (of_decide_eq_true hlastRoutes).1

/-- An output that no order changes lists no two keys in either order. -/
theorem FaithfulReduction.orderFixed {reports : List ReviewerReport}
    (hfaithful : FaithfulReduction reports) : OrderFixed reports := by
  intro finding other laterFinding laterOther hprecede hfirst hsecond hreverse
  obtain ⟨others, hreordered, -, -, hpair⟩ := exists_order_of_mayPrecede hprecede
  obtain ⟨thirds, hreorderedThird, -, -, hswapped⟩ := exists_order_of_mayPrecede hreverse
  let uuid : Nat → String := fun _ ↦ ""
  have hkeys := keys_eq_of_interchangeable (hfaithful.settled uuid uuid others hreordered).1
  have hkeysThird :=
    keys_eq_of_interchangeable (hfaithful.settled uuid uuid thirds hreorderedThird).1
  have hlisted := hpair.map ReviewFinding.key
  have hlistedThird := hswapped.map ReviewFinding.key
  rw [← hkeys] at hlisted
  rw [← hkeysThird] at hlistedThird
  simp only [List.map_cons, List.map_nil, ← (key_eq_iff _ _).mpr hfirst,
    ← (key_eq_iff _ _).mpr hsecond] at hlisted hlistedThird
  exact not_both_pairs (nodup_keptFindings reports) hlisted hlistedThird

/-- The reduction is faithful in every order of the reports exactly when no confirmed problem is
shadowed, equally grave duplicates agree on whether they are confirmed, and no two keys can be
listed in either order. -/
theorem reduction_is_faithful_iff (reports : List ReviewerReport) :
    FaithfulReduction reports ↔ Unshadowed reports ∧ Unanimous reports ∧ OrderFixed reports := by
  constructor
  · intro hfaithful
    refine ⟨fun finding hmem hconfirmed action haction ↦ ?_, hfaithful.unanimous,
      hfaithful.orderFixed⟩
    obtain ⟨leader, hleading, hleader⟩ := (represented_iff (fun _ ↦ "") reports action _).mp
      (hfaithful.represented _ finding hmem hconfirmed action haction)
    exact ⟨leader, hleading.gravest, hleader⟩
  · rintro ⟨hunshadowed, hunanimous, hfixed⟩
    refine ⟨?_, ?_, ?_, ?_, ?_⟩
    · intro uuid finding hmem hconfirmed action haction
      obtain ⟨gravest, hgravest, hverdict, hroute, hitems⟩ :=
        hunshadowed finding hmem hconfirmed action haction
      -- the leader of that key is confirmed as well
      obtain ⟨leader, hleading, hkey⟩ := exists_leading hgravest.live
      have hduplicates : Duplicates gravest leader := (key_eq_iff _ _).mp hkey.symm
      refine (represented_iff uuid reports action _).mpr ⟨leader, hleading,
        hunanimous gravest leader hgravest hleading.gravest hduplicates action hroute hverdict,
        hduplicates.2.1 ▸ hroute, fun item ↦ ?_⟩
      rw [← hduplicates.2.2.mem_iff]
      exact hitems item
    · intro uuid given hmem
      obtain ⟨id, slot, rfl, -⟩ := mem_directives hmem
      refine ⟨rfl, rfl, fun finding hcited ↦ ?_⟩
      exact (of_decide_eq_true (List.mem_filter.mp hcited).2).1
    · intro uuid
      refine (List.pairwise_map.mp (nodup_keptFindings reports)).imp fun hkey hduplicates ↦ ?_
      exact hkey ((key_eq_iff _ _).mpr hduplicates)
    · exact fun uuid finding hkept ↦ ((mem_keptFindings _ _).mp hkept).gravest
    · intro uuid otherUuid others hreordered
      have hkept := kept_interchangeable hfixed hreordered
      exact ⟨hkept, sameDirectives hunanimous hreordered hkept uuid otherUuid⟩

/-- A style finding of the preference reviewer. -/
def styleFinding (findingId : String) (basis : FindingBasis) (verdict : FindingVerdict)
    (severity : FindingSeverity) : ReviewFinding where
  findingId := findingId
  taskId := "review_task_1"
  reviewer := .preference
  ruleId := "preference.travel_style"
  findingType := .travelStylePreferenceViolation
  basis := basis
  verdict := verdict
  severity := severity
  summary := "Candidate itinerary style conflicts with the explicit travel style."
  evidence := [⟨.planItem, "itinerary", some "poi_style", .str "dense", .str "slow", none, none⟩]
  affectedPlanItemIds := ["itinerary"]

/-- A report whose semantic analyzer suspects, as grave, what the deterministic check confirmed as
less grave. -/
def shadowedReports : List ReviewerReport :=
  [{ reviewer := .preference
     taskId := "review_task_1"
     checkedRuleIds := ["preference.travel_style"]
     skippedChecks := []
     findings := [styleFinding "finding_1" .deterministic .confirmed .medium,
       styleFinding "finding_2" .llmSemantic .plausibleVerdict .high]
     identity := by decide
     evidence := by decide
     coverage := by decide }]

theorem shadowed_finding_is_lost : ¬ FaithfulReduction shadowedReports := by
  intro hfaithful
  have hnone : (reduce (fun _ ↦ "") shadowedReports).directives = [] := by decide +kernel
  obtain ⟨given, hmem, -⟩ := hfaithful.represented (fun _ ↦ "")
    (styleFinding "finding_1" .deterministic .confirmed .medium) (by decide) rfl
    .adjustItineraryStyle rfl
  rw [hnone] at hmem
  cases hmem

end AgentRuntime.Travel
