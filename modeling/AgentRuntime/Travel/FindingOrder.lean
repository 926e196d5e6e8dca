import AgentRuntime.Travel.FindingChoice

/-!
# What another order of the reports can change

The reports may come in any order, each with its findings in any order (`Reordered`). Every gravest
finding leads its key in some order (`exists_order_leading`). For two gravest findings with
different keys, equal severity and equal rule, `MayPrecede` says from the reports alone whether some
order lists the first before the second: both can lead at once, and the first has the smaller id, or
the ids are equal and its key can appear first. `mayPrecede_of_pair` and
`exists_order_of_mayPrecede` are the two directions.
-/

set_option autoImplicit false
set_option relaxedAutoImplicit false

namespace AgentRuntime.Travel

open Library

/-- The same report with its findings in another order. -/
def SameReport (report other : ReviewerReport) : Prop :=
  report.reviewer = other.reviewer ∧ report.taskId = other.taskId ∧
    report.checkedRuleIds = other.checkedRuleIds ∧ report.skippedChecks = other.skippedChecks ∧
    report.findings.Perm other.findings

theorem SameReport.findings {report other : ReviewerReport} (hsame : SameReport report other) :
    report.findings.Perm other.findings := hsame.2.2.2.2

/-- The reports in another order, with their findings in another order. -/
def Reordered (reports others : List ReviewerReport) : Prop :=
  ∃ middle, reports.Perm middle ∧ List.Forall₂ SameReport middle others

/-- The report has a gravest finding with the key. -/
def HasGravest (reports : List ReviewerReport) (report : ReviewerReport) (key : FindingKey) :
    Prop :=
  ∃ finding ∈ report.findings, Gravest reports finding ∧ finding.key = key

/-- A report with the first finding has the second one too, or no gravest duplicate of it. -/
def Ahead (reports : List ReviewerReport) (finding other : ReviewFinding) : Prop :=
  ∃ report ∈ reports, finding ∈ report.findings ∧
    (other ∈ report.findings ∨ ¬ HasGravest reports report other.key)

/-- A report with the second finding has no gravest duplicate of the first one, but it has a
duplicate of it, or there is a duplicate of it in a report without gravest duplicates of either. -/
def Announced (reports : List ReviewerReport) (finding other : ReviewFinding) : Prop :=
  ∃ report ∈ reports, other ∈ report.findings ∧ ¬ HasGravest reports report finding.key ∧
    ∃ early ∈ liveFindings reports, early.key = finding.key ∧
      (early ∈ report.findings ∨ ∃ source ∈ reports, early ∈ source.findings ∧
        ¬ HasGravest reports source finding.key ∧ ¬ HasGravest reports source other.key)

/-- Two gravest findings of one severity and rule, of which some order lists the first before the
second. -/
structure MayPrecede (reports : List ReviewerReport) (finding other : ReviewFinding) : Prop where
  gravest : Gravest reports finding
  otherGravest : Gravest reports other
  distinct : finding.key ≠ other.key
  severity : finding.severity = other.severity
  ruleId : finding.ruleId = other.ruleId
  listed : finding.findingId < other.findingId ∧
      (Ahead reports finding other ∨ Ahead reports other finding) ∨
    finding.findingId = other.findingId ∧
      (Ahead reports finding other ∨ Announced reports finding other)

/-! ### What all orders have in common -/

section Reordered

variable {reports others : List ReviewerReport} {finding other : ReviewFinding}

theorem allFindings_sameReports (hsame : List.Forall₂ SameReport reports others) :
    (allFindings reports).Perm (allFindings others) := by
  induction hsame with
  | nil => exact .nil
  | cons hreport _ ih => exact hreport.findings.append ih

theorem Reordered.allFindings (hreordered : Reordered reports others) :
    (allFindings reports).Perm (allFindings others) := by
  obtain ⟨middle, hperm, hsame⟩ := hreordered
  exact (hperm.flatMap_right _).trans (allFindings_sameReports hsame)

theorem Reordered.mem_live (hreordered : Reordered reports others) (finding : ReviewFinding) :
    finding ∈ liveFindings reports ↔ finding ∈ liveFindings others := by
  rw [mem_liveFindings, mem_liveFindings, hreordered.allFindings.mem_iff]

theorem Reordered.gravest (hreordered : Reordered reports others) (finding : ReviewFinding) :
    Gravest reports finding ↔ Gravest others finding := by
  constructor
  · intro hgravest
    exact ⟨(hreordered.mem_live _).mp hgravest.live, fun other hmem ↦
      hgravest.least other ((hreordered.mem_live _).mpr hmem)⟩
  · intro hgravest
    exact ⟨(hreordered.mem_live _).mpr hgravest.live, fun other hmem ↦
      hgravest.least other ((hreordered.mem_live _).mp hmem)⟩

/-- Each report of another order is one of the reports, as far as its findings go. -/
theorem Reordered.exists_report (hreordered : Reordered reports others) {report : ReviewerReport}
    (hmem : report ∈ others) : ∃ source ∈ reports, source.findings.Perm report.findings := by
  obtain ⟨middle, hperm, hsame⟩ := hreordered
  have hfound : ∃ source ∈ middle, source.findings.Perm report.findings := by
    clear hperm
    induction hsame with
    | nil => cases hmem
    | @cons first second _ _ hreport _ ih =>
      rcases List.mem_cons.mp hmem with rfl | hlater
      · exact ⟨first, List.mem_cons_self, hreport.findings⟩
      · obtain ⟨source, hsource, hfindings⟩ := ih hlater
        exact ⟨source, List.mem_cons_of_mem _ hsource, hfindings⟩
  obtain ⟨source, hsource, hfindings⟩ := hfound
  exact ⟨source, hperm.mem_iff.mpr hsource, hfindings⟩

theorem Reordered.hasGravest_iff (hreordered : Reordered reports others)
    {source report : ReviewerReport} (hfindings : source.findings.Perm report.findings)
    (key : FindingKey) : HasGravest reports source key ↔ HasGravest others report key := by
  unfold HasGravest
  refine exists_congr fun finding ↦ ?_
  rw [hfindings.mem_iff, hreordered.gravest finding]

theorem Reordered.ahead (hreordered : Reordered reports others)
    (hahead : Ahead others finding other) : Ahead reports finding other := by
  obtain ⟨report, hreport, hmem, hother⟩ := hahead
  obtain ⟨source, hsource, hfindings⟩ := hreordered.exists_report hreport
  exact ⟨source, hsource, hfindings.mem_iff.mpr hmem, hother.imp hfindings.mem_iff.mpr
    (mt (hreordered.hasGravest_iff hfindings _).mp)⟩

theorem Reordered.announced (hreordered : Reordered reports others)
    (hannounced : Announced others finding other) : Announced reports finding other := by
  obtain ⟨report, hreport, hmem, hnone, early, hlive, hkey, hplace⟩ := hannounced
  obtain ⟨source, hsource, hfindings⟩ := hreordered.exists_report hreport
  refine ⟨source, hsource, hfindings.mem_iff.mpr hmem,
    mt (hreordered.hasGravest_iff hfindings _).mp hnone, early,
    (hreordered.mem_live _).mpr hlive, hkey, hplace.imp hfindings.mem_iff.mpr ?_⟩
  rintro ⟨first, hfirst, hearly, hnoneFirst, hnoneOther⟩
  obtain ⟨origin, horigin, hsame⟩ := hreordered.exists_report hfirst
  exact ⟨origin, horigin, hsame.mem_iff.mpr hearly,
    mt (hreordered.hasGravest_iff hsame _).mp hnoneFirst,
    mt (hreordered.hasGravest_iff hsame _).mp hnoneOther⟩

/-- What may be listed first in another order may be so in this one. -/
theorem Reordered.mayPrecede (hreordered : Reordered reports others)
    (hprecede : MayPrecede others finding other) : MayPrecede reports finding other where
  gravest := (hreordered.gravest _).mpr hprecede.gravest
  otherGravest := (hreordered.gravest _).mpr hprecede.otherGravest
  distinct := hprecede.distinct
  severity := hprecede.severity
  ruleId := hprecede.ruleId
  listed := hprecede.listed.imp
    (And.imp_right (Or.imp hreordered.ahead hreordered.ahead))
    (And.imp_right (Or.imp hreordered.ahead hreordered.announced))

end Reordered

/-! ### What an order says of the reports -/

section Listed

variable {reports : List ReviewerReport} {finding other : ReviewFinding}

/-- A leading finding stands in the first report that has a gravest finding with its key. -/
theorem Leading.first_report (hleading : Leading reports finding) :
    ∃ before report after, reports = before ++ report :: after ∧ finding ∈ report.findings ∧
      ∀ earlier ∈ before, ¬ HasGravest reports earlier finding.key := by
  obtain ⟨front, back, hsplit, hfront, -⟩ := hleading
  have hflat : liveFindings reports = reports.flatMap fun report ↦
      report.findings.filter fun finding ↦ finding.verdict ≠ .refuted := by
    unfold liveFindings allFindings
    rw [List.filter_flatMap]
  rw [hflat] at hsplit
  obtain ⟨before, report, after, start, stop, hreports, hfindings, rfl⟩ :=
    flatMap_eq_append_cons hsplit
  have hmem : finding ∈ report.findings.filter fun finding ↦ finding.verdict ≠ .refuted := by
    rw [hfindings]
    simp
  refine ⟨before, report, after, hreports, (List.mem_filter.mp hmem).1, fun earlier hearlier ↦ ?_⟩
  rintro ⟨gravest, hgravest, hleast, hkey⟩
  have hlive := (mem_liveFindings.mp hleast.live).2
  have hrank := hfront gravest (List.mem_append_left _ (List.mem_flatMap.mpr
    ⟨earlier, hearlier, List.mem_filter.mpr ⟨hgravest, decide_eq_true hlive⟩⟩)) hkey
  have hfound : finding ∈ liveFindings reports := by
    rw [hflat]
    exact List.mem_flatMap.mpr ⟨report, by simp [hreports], hmem⟩
  exact absurd (hleast.least finding hfound ((key_eq_iff _ _).mp hkey.symm)) (Nat.not_le.mpr hrank)

/-- A key that appears before a finding does so in its report or in an earlier one. -/
theorem exists_early {before after : List ReviewerReport} {report : ReviewerReport}
    {key : FindingKey} (hreports : reports = before ++ report :: after)
    (hmem : other ∈ report.findings) (hlive : other ∈ liveFindings reports)
    (happears : AppearsBefore ReviewFinding.key (liveFindings reports) key other.key) :
    ∃ early ∈ liveFindings reports, early.key = key ∧
      (early ∈ report.findings ∨ ∃ source ∈ before, early ∈ source.findings) := by
  obtain ⟨front, back, hsplit, hfirst, habsent⟩ := happears
  obtain ⟨early, hearly, hkey⟩ := List.mem_map.mp hfirst
  have hlater : reports = (before ++ [report]) ++ after := by rw [hreports, List.append_assoc]; rfl
  have hparts : liveFindings (before ++ [report]) ++ liveFindings after = front ++ back := by
    rw [← liveFindings_append, ← hlater, hsplit]
  refine ⟨early, by rw [hsplit]; exact List.mem_append_left _ hearly, hkey, ?_⟩
  have hplaced : early ∈ liveFindings (before ++ [report]) := by
    rcases List.append_eq_append_iff.mp hparts with ⟨middle, rfl, -⟩ | ⟨middle, hfront, -⟩
    · have hfound : other ∈ liveFindings (before ++ [report]) := by
        refine mem_liveFindings.mpr ⟨?_, (mem_liveFindings.mp hlive).2⟩
        exact List.mem_flatMap.mpr ⟨report, by simp, hmem⟩
      exact absurd (List.mem_map_of_mem (List.mem_append_left _ hfound)) habsent
    · rw [hfront]
      exact List.mem_append_left _ hearly
  obtain ⟨source, hsource, hfound⟩ := exists_report hplaced
  rcases List.mem_append.mp hsource with hbefore | hlast
  · exact .inr ⟨source, hbefore, hfound⟩
  · exact .inl (List.mem_singleton.mp hlast ▸ hfound)

/-- Two leading findings with different keys: the reports show that both can lead, and a key that
appears first could do so. -/
theorem Leading.together (hleading : Leading reports finding) (hother : Leading reports other) :
    Ahead reports finding other ∨ Ahead reports other finding ∧
      (AppearsBefore ReviewFinding.key (liveFindings reports) finding.key other.key →
        Announced reports finding other) := by
  obtain ⟨before, report, after, hreports, hmem, hnone⟩ := hleading.first_report
  obtain ⟨start, source, stop, hsources, hotherMem, hotherNone⟩ := hother.first_report
  have hreport : report ∈ reports := by simp [hreports]
  have hsource : source ∈ reports := by simp [hsources]
  have hboth := hreports.symm.trans hsources
  rcases List.append_eq_append_iff.mp hboth with ⟨middle, hstart, hrest⟩ | ⟨middle, hbefore, hrest⟩
  · cases middle with
    | nil =>
      obtain ⟨rfl, -⟩ := List.cons.inj hrest
      exact .inl ⟨report, hreport, hmem, .inl hotherMem⟩
    | cons head tail =>
      obtain ⟨rfl, -⟩ := List.cons.inj hrest
      refine .inl ⟨report, hreport, hmem, .inr (hotherNone report ?_)⟩
      simp [hstart]
  · cases middle with
    | nil =>
      obtain ⟨rfl, -⟩ := List.cons.inj hrest
      exact .inl ⟨source, hsource, hmem, .inl hotherMem⟩
    | cons head tail =>
      obtain ⟨rfl, -⟩ := List.cons.inj hrest
      have hfree : ¬ HasGravest reports source finding.key := hnone source (by simp [hbefore])
      refine .inr ⟨⟨source, hsource, hotherMem, .inr hfree⟩, fun happears ↦ ?_⟩
      obtain ⟨early, hlive, hkey, hplace⟩ := exists_early hsources hotherMem hother.mem happears
      refine ⟨source, hsource, hotherMem, hfree, early, hlive, hkey, hplace.imp_right ?_⟩
      rintro ⟨origin, horigin, hearly⟩
      refine ⟨origin, by simp [hsources, horigin], hearly, hnone origin ?_,
        hotherNone origin horigin⟩
      simp [hbefore, horigin]

theorem sortKey_lt_iff (hseverity : finding.severity = other.severity)
    (hrule : finding.ruleId = other.ruleId) :
    finding.sortKey < other.sortKey ↔ finding.findingId < other.findingId := by
  unfold ReviewFinding.sortKey
  rw [hseverity, hrule]
  simp [Prod.Lex.toLex_lt_toLex]

theorem sortKey_eq_iff (hseverity : finding.severity = other.severity)
    (hrule : finding.ruleId = other.ruleId) :
    finding.sortKey = other.sortKey ↔ finding.findingId = other.findingId := by
  unfold ReviewFinding.sortKey
  rw [hseverity, hrule]
  simp

/-- Of what this order lists first, the reports say so. -/
theorem mayPrecede_of_pair (hleading : Leading reports finding) (hother : Leading reports other)
    (hkey : finding.key ≠ other.key) (hseverity : finding.severity = other.severity)
    (hrule : finding.ruleId = other.ruleId)
    (hpair : [finding, other].Sublist (keptFindings reports)) :
    MayPrecede reports finding other := by
  refine ⟨hleading.gravest, hother.gravest, hkey, hseverity, hrule, ?_⟩
  have htogether := hleading.together hother
  rcases (pair_kept_iff hleading hother hkey).mp hpair with hlt | ⟨hsort, happears⟩
  · exact .inl ⟨(sortKey_lt_iff hseverity hrule).mp hlt, htogether.imp_right And.left⟩
  · exact .inr ⟨(sortKey_eq_iff hseverity hrule).mp hsort,
      htogether.imp_right fun hannounced ↦ hannounced.2 happears⟩

end Listed

/-! ### Orders that the reports admit -/

section Arranged

variable {reports others : List ReviewerReport} {finding other : ReviewFinding}

theorem exists_report_of_perm (report : ReviewerReport) {findings : List ReviewFinding}
    (hperm : report.findings.Perm findings) :
    ∃ other, SameReport report other ∧ other.findings = findings :=
  ⟨{ report with
      findings := findings
      identity := fun finding hmem ↦ report.identity finding (hperm.mem_iff.mpr hmem)
      evidence := fun finding hmem ↦ report.evidence finding (hperm.mem_iff.mpr hmem) },
    ⟨rfl, rfl, rfl, rfl, hperm⟩, rfl⟩

theorem exists_perm_cons {α : Type} {items : List α} {item : α} (hmem : item ∈ items) :
    ∃ rest, items.Perm (item :: rest) := by
  obtain ⟨before, after, rfl⟩ := List.append_of_mem hmem
  exact ⟨before ++ after, List.perm_middle⟩

theorem exists_perm_cons_cons {α : Type} {items : List α} {first second : α}
    (hfirst : first ∈ items) (hsecond : second ∈ items) (hne : first ≠ second) :
    ∃ rest, items.Perm (first :: second :: rest) := by
  obtain ⟨rest, hrest⟩ := exists_perm_cons hfirst
  have hmem : second ∈ rest :=
    (List.mem_cons.mp (hrest.mem_iff.mp hsecond)).resolve_left hne.symm
  obtain ⟨last, hlast⟩ := exists_perm_cons hmem
  exact ⟨last, hrest.trans (hlast.cons first)⟩

theorem exists_perm_cons_cons_cons {α : Type} {items : List α} {first second third : α}
    (hfirst : first ∈ items) (hsecond : second ∈ items) (hthird : third ∈ items)
    (hne : first ≠ second) (hneThird : first ≠ third) (hneLast : second ≠ third) :
    ∃ rest, items.Perm (first :: second :: third :: rest) := by
  obtain ⟨rest, hrest⟩ := exists_perm_cons hfirst
  have hmem : second ∈ rest :=
    (List.mem_cons.mp (hrest.mem_iff.mp hsecond)).resolve_left hne.symm
  have hlast : third ∈ rest :=
    (List.mem_cons.mp (hrest.mem_iff.mp hthird)).resolve_left hneThird.symm
  obtain ⟨last, hpair⟩ := exists_perm_cons_cons hmem hlast hneLast
  exact ⟨last, hrest.trans (hpair.cons first)⟩

/-- The report with one of its findings in front. -/
theorem exists_front {report : ReviewerReport} (hmem : finding ∈ report.findings) :
    ∃ other rest, SameReport report other ∧ other.findings = finding :: rest := by
  obtain ⟨rest, hperm⟩ := exists_perm_cons hmem
  obtain ⟨other, hsame, hfindings⟩ := exists_report_of_perm report hperm
  exact ⟨other, rest, hsame, hfindings⟩

/-- The report with two of its findings in front. -/
theorem exists_front_pair {report : ReviewerReport} (hmem : finding ∈ report.findings)
    (hother : other ∈ report.findings) (hne : finding ≠ other) :
    ∃ changed rest, SameReport report changed ∧ changed.findings = finding :: other :: rest := by
  obtain ⟨rest, hperm⟩ := exists_perm_cons_cons hmem hother hne
  obtain ⟨changed, hsame, hfindings⟩ := exists_report_of_perm report hperm
  exact ⟨changed, rest, hsame, hfindings⟩

/-- Some reports are brought to the front, with their findings in another order. -/
theorem reordered_front (chosen : List ReviewerReport) {changed rest : List ReviewerReport}
    (hperm : reports.Perm (chosen ++ rest)) (hsame : List.Forall₂ SameReport chosen changed) :
    Reordered reports (changed ++ rest) := by
  refine ⟨chosen ++ rest, hperm, List.rel_append hsame (List.forall₂_same.mpr fun _ _ ↦ ?_)⟩
  exact ⟨rfl, rfl, rfl, rfl, .rfl⟩

/-- A gravest finding leads when no gravest duplicate comes in an earlier report, and no duplicate
earlier in its own. -/
theorem leading_of_reports (before : List ReviewerReport) (front : List ReviewFinding)
    {after : List ReviewerReport} {report : ReviewerReport} {back : List ReviewFinding}
    (hreports : reports = before ++ report :: after)
    (hfindings : report.findings = front ++ finding :: back) (hgravest : Gravest reports finding)
    (hbefore : ∀ earlier ∈ before, ¬ HasGravest reports earlier finding.key)
    (hfront : ∀ earlier ∈ front, earlier.key ≠ finding.key) : Leading reports finding := by
  have hverdict := (mem_liveFindings.mp hgravest.live).2
  have hsplit : liveFindings reports = (liveFindings before ++
      front.filter fun finding ↦ finding.verdict ≠ .refuted) ++ finding ::
        ((back.filter fun finding ↦ finding.verdict ≠ .refuted) ++ liveFindings after) := by
    rw [hreports, liveFindings_append]
    simp [liveFindings, allFindings, hfindings, hverdict]
  refine leading_of_split hsplit hgravest fun earlier hmem hkey hleast ↦ ?_
  rcases List.mem_append.mp hmem with hlive | hfiltered
  · obtain ⟨source, hsource, hfound⟩ := exists_report hlive
    exact hbefore source hsource ⟨earlier, hfound, hleast, hkey⟩
  · exact hfront earlier (List.mem_filter.mp hfiltered).1 hkey

/-- A gravest finding leads when it is the very first one. -/
theorem leading_of_front {report : ReviewerReport} {rest : List ReviewerReport}
    {back : List ReviewFinding} (hreports : reports = report :: rest)
    (hfindings : report.findings = finding :: back) (hgravest : Gravest reports finding) :
    Leading reports finding :=
  leading_of_reports [] [] hreports hfindings hgravest (List.forall_mem_nil _)
    (List.forall_mem_nil _)

/-- The key of the very first finding appears before every other. -/
theorem appearsBefore_of_front {early : ReviewFinding} {report : ReviewerReport}
    {rest : List ReviewerReport} {back : List ReviewFinding} (hreports : reports = report :: rest)
    (hfindings : report.findings = early :: back) (hlive : early ∈ liveFindings reports)
    {key : FindingKey} (hne : early.key ≠ key) :
    AppearsBefore ReviewFinding.key (liveFindings reports) early.key key := by
  have hverdict := (mem_liveFindings.mp hlive).2
  refine ⟨[early], (back.filter fun finding ↦ finding.verdict ≠ .refuted) ++ liveFindings rest,
    ?_, List.mem_cons_self, ?_⟩
  · rw [hreports]
    simp [liveFindings, allFindings, hfindings, hverdict]
  · simpa using hne.symm

/-- Every gravest finding leads in some order. -/
theorem exists_order_leading (hgravest : Gravest reports finding) :
    ∃ others, Reordered reports others ∧ Leading others finding := by
  obtain ⟨report, hreport, hmem⟩ := exists_report hgravest.live
  obtain ⟨rest, hperm⟩ := exists_perm_cons hreport
  obtain ⟨changed, back, hsame, hfindings⟩ := exists_front hmem
  have hreordered : Reordered reports ([changed] ++ rest) :=
    reordered_front [report] hperm (.cons hsame .nil)
  refine ⟨[changed] ++ rest, hreordered, ?_⟩
  exact leading_of_front rfl hfindings ((hreordered.gravest _).mp hgravest)

/-- Two findings lead at once, and the key of the first one appears first. -/
def LeadsFirst (others : List ReviewerReport) (finding other : ReviewFinding) : Prop :=
  Leading others finding ∧ Leading others other ∧
    AppearsBefore ReviewFinding.key (liveFindings others) finding.key other.key

theorem exists_order_of_ahead (hgravest : Gravest reports finding) (hother : Gravest reports other)
    (hkey : finding.key ≠ other.key) (hahead : Ahead reports finding other) :
    ∃ others, Reordered reports others ∧ LeadsFirst others finding other := by
  obtain ⟨report, hreport, hmem, hplace⟩ := hahead
  have hne : finding ≠ other := fun heq ↦ hkey (congrArg _ heq)
  by_cases htogether : other ∈ report.findings
  · -- both stand in one report, which comes first with the two in front
    obtain ⟨rest, hperm⟩ := exists_perm_cons hreport
    obtain ⟨changed, back, hsame, hfindings⟩ := exists_front_pair hmem htogether hne
    have hreordered : Reordered reports ([changed] ++ rest) :=
      reordered_front [report] hperm (.cons hsame .nil)
    have hleast := (hreordered.gravest _).mp hgravest
    refine ⟨[changed] ++ rest, hreordered, ?_, ?_, ?_⟩
    · exact leading_of_front rfl hfindings hleast
    · refine leading_of_reports [] [finding] rfl hfindings
        ((hreordered.gravest _).mp hother) (List.forall_mem_nil _) fun earlier hearlier ↦ ?_
      rw [List.mem_singleton.mp hearlier]
      exact hkey
    · exact appearsBefore_of_front rfl hfindings hleast.live hkey
  · -- the report of the first comes first, and has no gravest duplicate of the second
    have hfree := hplace.resolve_left htogether
    obtain ⟨source, hsource, hotherMem⟩ := exists_report hother.live
    have hdistinct : report ≠ source := by
      rintro rfl
      exact htogether hotherMem
    obtain ⟨rest, hperm⟩ := exists_perm_cons_cons hreport hsource hdistinct
    obtain ⟨changed, back, hsame, hfindings⟩ := exists_front hmem
    obtain ⟨moved, tail, hmoved, hmovedFindings⟩ := exists_front hotherMem
    have hreordered : Reordered reports ([changed, moved] ++ rest) :=
      reordered_front [report, source] hperm (.cons hsame (.cons hmoved .nil))
    have hleast := (hreordered.gravest _).mp hgravest
    refine ⟨[changed, moved] ++ rest, hreordered, ?_, ?_, ?_⟩
    · exact leading_of_front rfl hfindings hleast
    · refine leading_of_reports [changed] [] rfl hmovedFindings
        ((hreordered.gravest _).mp hother) (fun earlier hearlier hgiven ↦ hfree ?_)
        (List.forall_mem_nil _)
      rw [List.mem_singleton.mp hearlier] at hgiven
      exact (hreordered.hasGravest_iff hsame.findings _).mpr hgiven
    · exact appearsBefore_of_front rfl hfindings hleast.live hkey

/-- The report of the second comes first, with an early duplicate of the first before it. -/
theorem exists_order_of_shared {report source : ReviewerReport} {early : ReviewFinding}
    (hgravest : Gravest reports finding) (hother : Gravest reports other)
    (hkey : finding.key ≠ other.key) (hreport : report ∈ reports) (hmem : finding ∈ report.findings)
    (hsource : source ∈ reports) (hotherMem : other ∈ source.findings)
    (hfree : ¬ HasGravest reports source finding.key) (hlive : early ∈ liveFindings reports)
    (hearly : early.key = finding.key) (htogether : early ∈ source.findings) :
    ∃ others, Reordered reports others ∧ LeadsFirst others finding other := by
  have hdistinct : source ≠ report := by
    rintro rfl
    exact hfree ⟨finding, hmem, hgravest, rfl⟩
  have hearlyNe : early.key ≠ other.key := hearly ▸ hkey
  have hne : early ≠ other := fun heq ↦ hearlyNe (congrArg _ heq)
  obtain ⟨rest, hperm⟩ := exists_perm_cons_cons hsource hreport hdistinct
  obtain ⟨moved, tail, hmoved, hmovedFindings⟩ := exists_front_pair htogether hotherMem hne
  obtain ⟨changed, back, hsame, hfindings⟩ := exists_front hmem
  have hreordered : Reordered reports ([moved, changed] ++ rest) :=
    reordered_front [source, report] hperm (.cons hmoved (.cons hsame .nil))
  refine ⟨[moved, changed] ++ rest, hreordered, ?_, ?_, ?_⟩
  · refine leading_of_reports [moved] [] rfl hfindings
      ((hreordered.gravest _).mp hgravest) (fun earlier hearlier hgiven ↦ hfree ?_)
      (List.forall_mem_nil _)
    rw [List.mem_singleton.mp hearlier] at hgiven
    exact (hreordered.hasGravest_iff hmoved.findings _).mpr hgiven
  · refine leading_of_reports [] [early] rfl hmovedFindings
      ((hreordered.gravest _).mp hother) (List.forall_mem_nil _) fun earlier hearlier ↦ ?_
    rw [List.mem_singleton.mp hearlier]
    exact hearlyNe
  · rw [← hearly]
    exact appearsBefore_of_front rfl hmovedFindings ((hreordered.mem_live _).mp hlive) hearlyNe

/-- The report of an early duplicate of the first comes first, then the report of the second. -/
theorem exists_order_of_separate {report source origin : ReviewerReport} {early : ReviewFinding}
    (hgravest : Gravest reports finding) (hother : Gravest reports other)
    (hkey : finding.key ≠ other.key) (hreport : report ∈ reports) (hmem : finding ∈ report.findings)
    (hsource : source ∈ reports) (hotherMem : other ∈ source.findings)
    (hfree : ¬ HasGravest reports source finding.key) (horigin : origin ∈ reports)
    (hearlyMem : early ∈ origin.findings) (hnone : ¬ HasGravest reports origin finding.key)
    (hnoneOther : ¬ HasGravest reports origin other.key) (hlive : early ∈ liveFindings reports)
    (hearly : early.key = finding.key) (happart : early ∉ source.findings) :
    ∃ others, Reordered reports others ∧ LeadsFirst others finding other := by
  have hdistinct : source ≠ report := by
    rintro rfl
    exact hfree ⟨finding, hmem, hgravest, rfl⟩
  have hfirst : origin ≠ source := by
    rintro rfl
    exact happart hearlyMem
  have hlast : origin ≠ report := by
    rintro rfl
    exact hnone ⟨finding, hmem, hgravest, rfl⟩
  have hearlyNe : early.key ≠ other.key := hearly ▸ hkey
  obtain ⟨rest, hperm⟩ := exists_perm_cons_cons_cons horigin hsource hreport hfirst hlast hdistinct
  obtain ⟨begun, start, hbegun, hbegunFindings⟩ := exists_front hearlyMem
  obtain ⟨moved, tail, hmoved, hmovedFindings⟩ := exists_front hotherMem
  obtain ⟨changed, back, hsame, hfindings⟩ := exists_front hmem
  have hreordered : Reordered reports ([begun, moved, changed] ++ rest) :=
    reordered_front [origin, source, report] hperm
      (.cons hbegun (.cons hmoved (.cons hsame .nil)))
  refine ⟨[begun, moved, changed] ++ rest, hreordered, ?_, ?_, ?_⟩
  · refine leading_of_reports [begun, moved] [] rfl hfindings
      ((hreordered.gravest _).mp hgravest) (fun earlier hearlier hgiven ↦ ?_)
      (List.forall_mem_nil _)
    rcases List.mem_cons.mp hearlier with rfl | hearlier
    · exact hnone ((hreordered.hasGravest_iff hbegun.findings _).mpr hgiven)
    · rw [List.mem_singleton.mp hearlier] at hgiven
      exact hfree ((hreordered.hasGravest_iff hmoved.findings _).mpr hgiven)
  · refine leading_of_reports [begun] [] rfl hmovedFindings
      ((hreordered.gravest _).mp hother) (fun earlier hearlier hgiven ↦ hnoneOther ?_)
      (List.forall_mem_nil _)
    rw [List.mem_singleton.mp hearlier] at hgiven
    exact (hreordered.hasGravest_iff hbegun.findings _).mpr hgiven
  · rw [← hearly]
    exact appearsBefore_of_front rfl hbegunFindings ((hreordered.mem_live _).mp hlive) hearlyNe

theorem exists_order_of_announced (hgravest : Gravest reports finding)
    (hother : Gravest reports other) (hkey : finding.key ≠ other.key)
    (hannounced : Announced reports finding other) :
    ∃ others, Reordered reports others ∧ LeadsFirst others finding other := by
  obtain ⟨source, hsource, hotherMem, hfree, early, hlive, hearly, hplace⟩ := hannounced
  obtain ⟨report, hreport, hmem⟩ := exists_report hgravest.live
  by_cases htogether : early ∈ source.findings
  · exact exists_order_of_shared hgravest hother hkey hreport hmem hsource hotherMem hfree hlive
      hearly htogether
  · obtain ⟨origin, horigin, hearlyMem, hnone, hnoneOther⟩ := hplace.resolve_left htogether
    exact exists_order_of_separate hgravest hother hkey hreport hmem hsource hotherMem hfree
      horigin hearlyMem hnone hnoneOther hlive hearly htogether

/-- What the reports admit first, some order lists first. -/
theorem exists_order_of_mayPrecede (hprecede : MayPrecede reports finding other) :
    ∃ others, Reordered reports others ∧ Leading others finding ∧ Leading others other ∧
      [finding, other].Sublist (keptFindings others) := by
  obtain ⟨hgravest, hother, hkey, hseverity, hrule, hlisted⟩ := hprecede
  have hlist {others : List ReviewerReport} (hfirst : Leading others finding)
      (hsecond : Leading others other)
      (hsort : finding.sortKey < other.sortKey ∨ finding.sortKey = other.sortKey ∧
        AppearsBefore ReviewFinding.key (liveFindings others) finding.key other.key) :=
    (pair_kept_iff hfirst hsecond hkey).mpr hsort
  rcases hlisted with ⟨hlt, hahead | hahead⟩ | ⟨hid, hplace⟩
  · obtain ⟨others, hreordered, hfirst, hsecond, -⟩ :=
      exists_order_of_ahead hgravest hother hkey hahead
    exact ⟨others, hreordered, hfirst, hsecond,
      hlist hfirst hsecond (.inl ((sortKey_lt_iff hseverity hrule).mpr hlt))⟩
  · obtain ⟨others, hreordered, hsecond, hfirst, -⟩ :=
      exists_order_of_ahead hother hgravest hkey.symm hahead
    exact ⟨others, hreordered, hfirst, hsecond,
      hlist hfirst hsecond (.inl ((sortKey_lt_iff hseverity hrule).mpr hlt))⟩
  · have harranged : ∃ others, Reordered reports others ∧ LeadsFirst others finding other := by
      rcases hplace with hahead | hannounced
      · exact exists_order_of_ahead hgravest hother hkey hahead
      · exact exists_order_of_announced hgravest hother hkey hannounced
    obtain ⟨others, hreordered, hfirst, hsecond, happears⟩ := harranged
    exact ⟨others, hreordered, hfirst, hsecond,
      hlist hfirst hsecond (.inr ⟨(sortKey_eq_iff hseverity hrule).mpr hid, happears⟩)⟩

end Arranged

end AgentRuntime.Travel
