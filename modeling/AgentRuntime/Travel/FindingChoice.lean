import AgentRuntime.Travel.FindingReducer
import Mathlib.Data.List.Forall2

/-!
# Which findings are kept, and in which order

Of the findings that were not refuted, the dictionary of `reduce` keeps the first of the gravest for
every key (`Leading`). Which one that is depends on the order of the reports, but not with what
severity a key is kept: the kept findings are among the `Gravest` of their keys, which every order
of the reports has in common.

The kept findings are sorted by severity, rule and id. Where two of them tie, they stay in the order
in which their keys first appeared (`pair_kept_iff`).
-/

set_option autoImplicit false
set_option relaxedAutoImplicit false

namespace AgentRuntime.Travel

open Library

/-! ### Findings and their duplicates -/

/-- All findings of the reports. -/
def allFindings (reports : List ReviewerReport) : List ReviewFinding :=
  reports.flatMap ReviewerReport.findings

/-- The findings that were not refuted. -/
def liveFindings (reports : List ReviewerReport) : List ReviewFinding :=
  (allFindings reports).filter fun finding ↦ finding.verdict ≠ .refuted

/-- Duplicates: the same rule and type, and the same items as often. -/
def Duplicates (finding other : ReviewFinding) : Prop :=
  finding.ruleId = other.ruleId ∧ finding.findingType = other.findingType ∧
    finding.affectedPlanItemIds.Perm other.affectedPlanItemIds

/-- The first of the gravest findings among its duplicates that were not refuted. -/
def Leading (reports : List ReviewerReport) (finding : ReviewFinding) : Prop :=
  Leads ReviewFinding.key (fun finding ↦ severityOrder finding.severity) (liveFindings reports)
    finding

/-- One of the gravest findings among its duplicates that were not refuted. -/
structure Gravest (reports : List ReviewerReport) (finding : ReviewFinding) : Prop where
  live : finding ∈ liveFindings reports
  least : ∀ other ∈ liveFindings reports, Duplicates other finding →
    severityOrder finding.severity ≤ severityOrder other.severity

theorem key_eq_iff (finding other : ReviewFinding) :
    finding.key = other.key ↔ Duplicates finding other := by
  unfold ReviewFinding.key Duplicates
  rw [Prod.mk.injEq, Prod.mk.injEq]
  refine and_congr_right fun _ ↦ and_congr_right fun _ ↦ ?_
  constructor
  · intro hsorted
    have hperm := (List.perm_insertionSort (· ≤ ·) finding.affectedPlanItemIds).symm
    rw [hsorted] at hperm
    exact hperm.trans (List.perm_insertionSort _ _)
  · intro hperm
    refine List.Perm.eq_of_pairwise' (List.pairwise_insertionSort _ _)
      (List.pairwise_insertionSort _ _) ?_
    exact ((List.perm_insertionSort _ _).trans hperm).trans (List.perm_insertionSort _ _).symm

theorem mem_liveFindings {reports : List ReviewerReport} {finding : ReviewFinding} :
    finding ∈ liveFindings reports ↔
      finding ∈ allFindings reports ∧ finding.verdict ≠ .refuted := by
  unfold liveFindings
  rw [List.mem_filter, decide_eq_true_eq]

/-- A live finding stands in one of the reports. -/
theorem exists_report {reports : List ReviewerReport} {finding : ReviewFinding}
    (hlive : finding ∈ liveFindings reports) : ∃ report ∈ reports, finding ∈ report.findings :=
  List.mem_flatMap.mp (mem_liveFindings.mp hlive).1

theorem liveFindings_append (reports others : List ReviewerReport) :
    liveFindings (reports ++ others) = liveFindings reports ++ liveFindings others := by
  unfold liveFindings allFindings
  rw [List.flatMap_append, List.filter_append]

/-! ### The dictionary -/

/-- The dictionary of the findings that are kept. -/
def keptTable (reports : List ReviewerReport) : Table FindingKey ReviewFinding :=
  (liveFindings reports).foldl
    (keepBest ReviewFinding.key fun finding ↦ severityOrder finding.severity) .empty

theorem keptFindings_eq (reports : List ReviewerReport) :
    keptFindings reports = ((keptTable reports).rows.map Prod.snd).insertionSort
      fun left right ↦ left.sortKey ≤ right.sortKey := by
  have hfold : reports.foldl (fun deduplicated report ↦
      report.findings.foldl deduplicate deduplicated) .empty = keptTable reports := by
    unfold keptTable liveFindings allFindings
    rw [List.foldl_filter, List.foldl_flatMap]
    congr 1
    funext deduplicated report
    congr 1
    funext table finding
    unfold deduplicate keepBest
    by_cases hrefuted : finding.verdict = .refuted
    · simp [hrefuted]
    · simp only [hrefuted, if_false, ne_eq, not_false_eq_true, decide_true, if_true]
      cases table.find finding.key with
      | none => rfl
      | some existing => rfl
  unfold keptFindings
  rw [hfold]

theorem mem_keptFindings (reports : List ReviewerReport) (finding : ReviewFinding) :
    finding ∈ keptFindings reports ↔ Leading reports finding := by
  rw [keptFindings_eq, List.mem_insertionSort, List.mem_map]
  constructor
  · rintro ⟨⟨key, kept⟩, hmem, rfl⟩
    exact ((find_keepBest _ _ _).mp ((Table.mem_rows_iff _ _ _).mp hmem)).1
  · intro hleads
    exact ⟨(finding.key, finding), (Table.mem_rows_iff _ _ _).mpr
      ((find_keepBest _ _ _).mpr ⟨hleads, rfl⟩), rfl⟩

theorem map_key_rows (reports : List ReviewerReport) :
    ((keptTable reports).rows.map Prod.snd).map ReviewFinding.key =
      (keptTable reports).rows.map Prod.fst := by
  rw [List.map_map]
  refine List.map_congr_left fun row hmem ↦ ?_
  exact ((find_keepBest _ _ _).mp ((Table.mem_rows_iff _ row.1 row.2).mp hmem)).2

theorem nodup_keptFindings (reports : List ReviewerReport) :
    ((keptFindings reports).map ReviewFinding.key).Nodup := by
  rw [keptFindings_eq, ((List.perm_insertionSort _ _).map _).nodup_iff, map_key_rows]
  exact (keptTable reports).nodup

/-! ### Leading findings -/

section Leading

variable {reports : List ReviewerReport} {finding other : ReviewFinding}

theorem exists_leading (hmem : finding ∈ liveFindings reports) :
    ∃ leader, Leading reports leader ∧ leader.key = finding.key := by
  cases hfind : (keptTable reports).find finding.key with
  | none => exact absurd (List.mem_map_of_mem hmem) ((find_keepBest_eq_none _ _).mp hfind)
  | some leader => exact ⟨leader, (find_keepBest _ _ _).mp hfind⟩

/-- Every key has one leading finding. -/
theorem Leading.unique (hleading : Leading reports finding) (hother : Leading reports other)
    (hkey : finding.key = other.key) : finding = other := by
  have hfind : (keptTable reports).find finding.key = some finding :=
    (find_keepBest _ _ _).mpr ⟨hleading, rfl⟩
  have hfound : (keptTable reports).find finding.key = some other :=
    (find_keepBest _ _ _).mpr ⟨hother, hkey.symm⟩
  exact Option.some.inj (hfind.symm.trans hfound)

theorem Leading.gravest (hleading : Leading reports finding) : Gravest reports finding where
  live := hleading.mem
  least _ hmem hduplicates := hleading.rank_le hmem ((key_eq_iff _ _).mpr hduplicates)

theorem severityOrder_injective : Function.Injective severityOrder := by
  intro severity other heq
  cases severity <;> cases other <;> first | rfl | cases heq

/-- Gravest duplicates are equally grave. -/
theorem Gravest.severity_eq (hgravest : Gravest reports finding) (hother : Gravest reports other)
    (hkey : finding.key = other.key) : finding.severity = other.severity := by
  refine severityOrder_injective (Nat.le_antisymm ?_ ?_)
  · exact hgravest.least other hother.live ((key_eq_iff _ _).mp hkey.symm)
  · exact hother.least finding hgravest.live ((key_eq_iff _ _).mp hkey)

/-- A finding as grave as a gravest duplicate is a gravest one. -/
theorem Gravest.of_le (hgravest : Gravest reports finding) (hlive : other ∈ liveFindings reports)
    (hkey : other.key = finding.key)
    (hle : severityOrder other.severity ≤ severityOrder finding.severity) :
    Gravest reports other where
  live := hlive
  least third hmem hduplicates := by
    have hthird : third.key = finding.key := ((key_eq_iff _ _).mpr hduplicates).trans hkey
    exact hle.trans (hgravest.least third hmem ((key_eq_iff _ _).mp hthird))

/-- A gravest finding with none of its gravest duplicates before it leads. -/
theorem leading_of_split {before after : List ReviewFinding}
    (hsplit : liveFindings reports = before ++ finding :: after)
    (hgravest : Gravest reports finding)
    (hfree : ∀ other ∈ before, other.key = finding.key → ¬ Gravest reports other) :
    Leading reports finding := by
  refine ⟨before, after, hsplit, fun other hmem hkey ↦ ?_, fun other hmem hkey ↦ ?_⟩
  · have hlive : other ∈ liveFindings reports := by
      rw [hsplit]
      exact List.mem_append_left _ hmem
    by_contra hrank
    exact hfree other hmem hkey (hgravest.of_le hlive hkey (Nat.not_lt.mp hrank))
  · have hlive : other ∈ liveFindings reports := by
      rw [hsplit]
      exact List.mem_append_right _ (List.mem_cons_of_mem _ hmem)
    exact hgravest.least other hlive ((key_eq_iff _ _).mp hkey)

end Leading

/-! ### The order of the kept findings -/

section Order

variable {reports : List ReviewerReport} {finding other : ReviewFinding}

instance : Std.Total fun left right : ReviewFinding ↦ left.sortKey ≤ right.sortKey :=
  ⟨fun left right ↦ le_total left.sortKey right.sortKey⟩

instance : IsTrans ReviewFinding fun left right ↦ left.sortKey ≤ right.sortKey :=
  ⟨fun _ _ _ ↦ le_trans⟩

theorem mem_rows :
    finding ∈ (keptTable reports).rows.map Prod.snd ↔ Leading reports finding := by
  rw [← mem_keptFindings, keptFindings_eq, List.mem_insertionSort]

/-- Two leading findings stand in the dictionary as their keys first appeared. -/
theorem pair_sublist_rows (hleading : Leading reports finding) (hother : Leading reports other)
    (hkey : finding.key ≠ other.key)
    (happears : AppearsBefore ReviewFinding.key (liveFindings reports) finding.key other.key) :
    [finding, other].Sublist ((keptTable reports).rows.map Prod.snd) := by
  have hkeys : [finding.key, other.key].Sublist ((keptTable reports).rows.map Prod.fst) :=
    (pair_sublist_keys (List.mem_map_of_mem hleading.mem) (List.mem_map_of_mem hother.mem)
      hkey).mpr happears
  rw [← map_key_rows] at hkeys
  have hne : finding ≠ other := fun heq ↦ hkey (congrArg _ heq)
  have hnodup : (((keptTable reports).rows.map Prod.snd).map ReviewFinding.key).Nodup := by
    rw [map_key_rows]
    exact (keptTable reports).nodup
  refine (pair_sublist_or (mem_rows.mpr hleading) (mem_rows.mpr hother) hne).resolve_right
    fun hswapped ↦ ?_
  exact not_both_pairs hnodup hkeys (hswapped.map ReviewFinding.key)

theorem sortKey_le_of_pair (hpair : [finding, other].Sublist (keptFindings reports)) :
    finding.sortKey ≤ other.sortKey := by
  have hsorted := List.pairwise_insertionSort
    (fun left right : ReviewFinding ↦ left.sortKey ≤ right.sortKey)
    ((keptTable reports).rows.map Prod.snd)
  rw [← keptFindings_eq] at hsorted
  exact List.pairwise_iff_forall_sublist.mp hsorted hpair

theorem nodup_kept (reports : List ReviewerReport) : (keptFindings reports).Nodup :=
  List.Nodup.of_map ReviewFinding.key (nodup_keptFindings reports)

/-- Two kept findings are listed by severity, rule and id, and where these agree in the order in
which their keys first appeared. -/
theorem pair_kept_iff (hleading : Leading reports finding) (hother : Leading reports other)
    (hkey : finding.key ≠ other.key) :
    [finding, other].Sublist (keptFindings reports) ↔
      finding.sortKey < other.sortKey ∨ finding.sortKey = other.sortKey ∧
        AppearsBefore ReviewFinding.key (liveFindings reports) finding.key other.key := by
  have htied {first second : ReviewFinding} (hfirst : Leading reports first)
      (hsecond : Leading reports second) (hdistinct : first.key ≠ second.key)
      (hsort : first.sortKey = second.sortKey)
      (happears : AppearsBefore ReviewFinding.key (liveFindings reports) first.key second.key) :
      [first, second].Sublist (keptFindings reports) := by
    rw [keptFindings_eq]
    exact List.pair_sublist_insertionSort hsort.le
      (pair_sublist_rows hfirst hsecond hdistinct happears)
  have hne : finding ≠ other := fun heq ↦ hkey (congrArg _ heq)
  constructor
  · intro hpair
    refine (sortKey_le_of_pair hpair).lt_or_eq.imp_right fun hsort ↦ ⟨hsort, ?_⟩
    refine (appearsBefore_or (List.mem_map_of_mem hleading.mem) hkey).resolve_right fun hlater ↦ ?_
    exact not_both_pairs (nodup_kept reports) hpair
      (htied hother hleading hkey.symm hsort.symm hlater)
  · rintro (hlt | ⟨hsort, happears⟩)
    · refine (pair_sublist_or ((mem_keptFindings _ _).mpr hleading)
        ((mem_keptFindings _ _).mpr hother) hne).resolve_right fun hswapped ↦ ?_
      exact absurd (sortKey_le_of_pair hswapped) hlt.not_ge
    · exact htied hleading hother hkey hsort happears

end Order

end AgentRuntime.Travel
