import AgentRuntime.Library.Json
import AgentRuntime.Library.Ranking
import Mathlib.Data.List.Dedup
import Mathlib.Data.List.Lex
import Mathlib.Data.Prod.Lex
import Mathlib.Data.String.Basic

/-!
# `FindingReducer`

The reviewers of a plan return reports of findings. `reduce` drops the refuted findings, keeps one
finding for every rule, type and list of affected items, sorts the rest by severity and turns the
confirmed ones into replan directives, one for every action and set of items. The dictionaries of
the source are tables, which list their keys in the order of insertion as `dict` does.
-/

set_option autoImplicit false
set_option relaxedAutoImplicit false

namespace AgentRuntime.Travel

open Library

/-! ### The records -/

/-- `ReviewerRole`. -/
inductive ReviewerRole where
  | budget
  | preference
  deriving DecidableEq

/-- `EvidenceSourceType`. -/
inductive EvidenceSourceType where
  | constraint
  | planItem
  | memory
  | toolResult
  deriving DecidableEq

/-- `FindingBasis`. -/
inductive FindingBasis where
  | deterministic
  | llmSemantic
  | hybrid
  deriving DecidableEq

/-- `FindingVerdict`. -/
inductive FindingVerdict where
  | confirmed
  | plausibleVerdict
  | refuted
  deriving DecidableEq

/-- `FindingSeverity`. -/
inductive FindingSeverity where
  | low
  | medium
  | high
  | critical
  deriving DecidableEq

/-- `FindingType`. -/
inductive FindingType where
  | budgetOverrun
  | redEyePreferenceViolation
  | hotelLocationPreferenceViolation
  | travelStylePreferenceViolation
  | memoryPreferenceViolation
  deriving DecidableEq

/-- `ReplanAction`. -/
inductive ReplanAction where
  | reduceCost
  | changeFlight
  | changeAccommodation
  | adjustItineraryStyle
  | requestUserInput
  deriving DecidableEq

/-- `ReplanAction.value`. -/
def ReplanAction.value : ReplanAction → String
  | reduceCost => "reduce_cost"
  | changeFlight => "change_flight"
  | changeAccommodation => "change_accommodation"
  | adjustItineraryStyle => "adjust_itinerary_style"
  | requestUserInput => "request_user_input"

/-- `EvidenceRef`. -/
structure EvidenceRef where
  sourceType : EvidenceSourceType
  sourceId : String
  field : Option String
  observed : Json
  expected : Json
  unit : Option String
  toolCallId : Option String
  deriving DecidableEq

/-- `ReviewFinding`. -/
structure ReviewFinding where
  findingId : String
  taskId : String
  reviewer : ReviewerRole
  ruleId : String
  findingType : FindingType
  basis : FindingBasis
  verdict : FindingVerdict
  severity : FindingSeverity
  summary : String
  evidence : List EvidenceRef
  affectedPlanItemIds : List String
  deriving DecidableEq

/-- `SkippedCheck`. -/
structure SkippedCheck where
  ruleId : String
  reason : String
  required : Bool
  missingEvidence : List String
  deriving DecidableEq

/-- `ReviewerReport`, as `validate_report_identity_and_coverage` accepts it. -/
structure ReviewerReport where
  reviewer : ReviewerRole
  taskId : String
  checkedRuleIds : List String
  skippedChecks : List SkippedCheck
  findings : List ReviewFinding
  identity : ∀ finding ∈ findings, finding.taskId = taskId ∧ finding.reviewer = reviewer
  evidence : ∀ finding ∈ findings, finding.evidence ≠ []
  coverage : ∀ ruleId ∈ checkedRuleIds, ruleId ∉ skippedChecks.map SkippedCheck.ruleId

/-- `ReplanDirective`. -/
structure ReplanDirective where
  directiveId : String
  actionType : ReplanAction
  targetItemIds : List String
  findingIds : List String
  preserveItemIds : List String
  reason : String
  deriving DecidableEq

/-- `ReducerOutput`. -/
structure ReducerOutput where
  findings : List ReviewFinding
  directives : List ReplanDirective

/-! ### Reduction -/

/-- `_SEVERITY_ORDER`. -/
def severityOrder : FindingSeverity → Nat
  | .critical => 0
  | .high => 1
  | .medium => 2
  | .low => 3

/-- `_ACTIONS.get`. -/
def actions : FindingType → Option ReplanAction
  | .budgetOverrun => some .reduceCost
  | .redEyePreferenceViolation => some .changeFlight
  | .hotelLocationPreferenceViolation => some .changeAccommodation
  | .travelStylePreferenceViolation => some .adjustItineraryStyle
  | .memoryPreferenceViolation => some .adjustItineraryStyle

/-- What two duplicates agree in: rule, type and the sorted affected items. -/
abbrev FindingKey : Type := String × FindingType × List String

namespace ReviewFinding

def key (finding : ReviewFinding) : FindingKey :=
  (finding.ruleId, finding.findingType, finding.affectedPlanItemIds.insertionSort (· ≤ ·))

/-- What the findings are sorted by. -/
def sortKey (finding : ReviewFinding) : Nat ×ₗ String ×ₗ String :=
  toLex (severityOrder finding.severity, toLex (finding.ruleId, finding.findingId))

/-- The sorted set of the affected items. -/
def targets (finding : ReviewFinding) : List String :=
  finding.affectedPlanItemIds.dedup.insertionSort (· ≤ ·)

end ReviewFinding

/-- One more finding of a report. -/
def deduplicate (deduplicated : Table FindingKey ReviewFinding) (finding : ReviewFinding) :
    Table FindingKey ReviewFinding :=
  if finding.verdict = .refuted then deduplicated
  else
    match deduplicated.find finding.key with
    | none => deduplicated.insert finding.key finding
    | some existing =>
      if severityOrder finding.severity < severityOrder existing.severity then
        deduplicated.modify finding.key fun _ ↦ finding
      else deduplicated

/-- The findings that are kept, sorted. -/
def keptFindings (reports : List ReviewerReport) : List ReviewFinding :=
  let deduplicated := reports.foldl
    (fun deduplicated report ↦ report.findings.foldl deduplicate deduplicated) .empty
  (deduplicated.rows.map Prod.snd).insertionSort fun left right ↦ left.sortKey ≤ right.sortKey

/-- One more kept finding for its action and targets. -/
def group (grouped : Table (ReplanAction × List String) (List ReviewFinding))
    (finding : ReviewFinding) : Table (ReplanAction × List String) (List ReviewFinding) :=
  if finding.verdict ≠ .confirmed then grouped
  else
    match actions finding.findingType with
    | none => grouped
    | some action =>
      match grouped.find (action, finding.targets) with
      | none => grouped.insert (action, finding.targets) [finding]
      | some _ => grouped.modify (action, finding.targets) fun findings ↦ findings ++ [finding]

/-- The directive for an action and its targets. -/
def directive (directiveId : String)
    (entry : (ReplanAction × List String) × List ReviewFinding) : ReplanDirective where
  directiveId := "directive_" ++ directiveId
  actionType := entry.1.1
  targetItemIds := entry.1.2
  findingIds := entry.2.map ReviewFinding.findingId
  preserveItemIds := []
  reason := String.intercalate "; " (entry.2.map ReviewFinding.summary)

/-- The groups in the order of their directives. -/
def sortedGroups (findings : List ReviewFinding) :
    List ((ReplanAction × List String) × List ReviewFinding) :=
  (findings.foldl group .empty).rows.insertionSort fun left right ↦
    toLex (left.1.1.value, left.1.2) ≤ toLex (right.1.1.value, right.1.2)

/-- `reduce`; `uuid` draws the ids of the directives. -/
def reduce (uuid : Nat → String) (reports : List ReviewerReport) : ReducerOutput where
  findings := keptFindings reports
  directives := (sortedGroups (keptFindings reports)).mapIdx fun index entry ↦
    directive (uuid index) entry

end AgentRuntime.Travel
