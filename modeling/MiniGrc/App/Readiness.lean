import Mathlib.Data.List.Sort
import Mathlib.Data.String.Basic
import MiniGrc.App.ControlOccurrences
import MiniGrc.App.FindingLifecycle
import MiniGrc.ForStd.Dict

/-!
# Readiness

`app/readiness.py`, and the steps of `app/onboarding.py` that its stages build on. `none`
stands for an `OverflowError` of the clock.

A table lists its rows in the order in which the queries return them, whatever it is.
-/

namespace MiniGrc.Readiness

open ControlOccurrences (ControlOccurrence ControlPeriod ControlPeriodStatus)
open ControlTests (ControlTest TestResult)
open FindingLifecycle (Finding FindingStatus)

/-! ## Tables -/

/-- The rows of a table by their ids. -/
abbrev Rows (ρ : Type) := Dict Id ρ

/-- The columns of an `internal_controls` row that say who owns it. -/
structure InternalControl where
  owner : String
  ownerPersonId : Option Id

/-- The columns of a `policies` row that its review depends on. -/
structure Policy where
  archived : Bool
  nextReviewDate : Option Date

/-- A row of `evidence_snapshots`, as far as it expires. -/
structure EvidenceSnapshot where
  expiresAt : Option DateTime

/-- The tables that are read. Of those of which only one row is looked for, the columns that
    decide whether it counts. -/
structure Database where
  controlOccurrences : Rows ControlOccurrence
  evidenceSnapshots : Rows EvidenceSnapshot
  controlTests : Rows ControlTest
  findings : Rows Finding
  internalControls : Rows InternalControl
  policies : Rows Policy
  /-- `control_requirement_mappings`: the control and the requirement -/
  controlRequirementMappings : List (Id × Id)
  /-- `framework_requirements`: the framework -/
  frameworkRequirements : Rows Id
  /-- `frameworks`: whether it is primary -/
  frameworks : Rows Bool
  complianceScopes : List Id
  controlPeriods : Rows ControlPeriod
  /-- `people`: whether the person is in scope -/
  people : Rows Bool
  /-- `vendor_systems`: whether the system is in scope -/
  vendorSystems : Rows Bool
  googleDriveConnections : List Id
  awsConnections : List Id
  externalConnections : List Id

/-- What the clock says, each time that it is read. -/
structure Clock where
  /-- `now` in `_compute_occurrence_items` -/
  occurrences : DateTime
  /-- `now` in `_compute_evidence_stale_items` -/
  evidence : DateTime
  /-- `today` in `_compute_finding_items` -/
  findings : Date
  /-- `today` in `_compute_policy_review_overdue_items` -/
  policies : Date

/-! ## Items -/

/-- The keys of `READINESS_CATEGORIES`. -/
inductive ReadinessCategory
  | occurrenceOverdue
  | occurrenceUpcoming
  | occurrenceMissingEvidence
  | evidenceStale
  | controlTestFailedNoFinding
  | findingNeedsAttention
  | findingNeedsRetest
  | controlMissingOwner
  | findingMissingOwner
  | policyReviewOverdue
  deriving DecidableEq, Repr

/-- A category as a string. -/
def ReadinessCategory.value : ReadinessCategory → String
  | .occurrenceOverdue => "occurrence_overdue"
  | .occurrenceUpcoming => "occurrence_upcoming"
  | .occurrenceMissingEvidence => "occurrence_missing_evidence"
  | .evidenceStale => "evidence_stale"
  | .controlTestFailedNoFinding => "control_test_failed_no_finding"
  | .findingNeedsAttention => "finding_needs_attention"
  | .findingNeedsRetest => "finding_needs_retest"
  | .controlMissingOwner => "control_missing_owner"
  | .findingMissingOwner => "finding_missing_owner"
  | .policyReviewOverdue => "policy_review_overdue"

/-- `ReadinessItem`. -/
structure ReadinessItem where
  category : ReadinessCategory
  reason : String
  link : String
  controlId : Option Id
  dueOn : Option Date
  deriving DecidableEq, Repr

/-- `str(t.date())`. -/
def dateText (t : Time) : String :=
  let (year, month, day) := ord2ymd (Time.dateOrdinal t)
  Date.zeroPad 4 year ++ "-" ++ Date.zeroPad 2 month ++ "-" ++ Date.zeroPad 2 day

/-- `_UPCOMING_WINDOW_DAYS`. -/
def upcomingWindowDays : Nat := 14

/-- `now + datetime.timedelta(days=_UPCOMING_WINDOW_DAYS)`. -/
def upcomingCutoff (now : DateTime) : Option DateTime :=
  (now.date.subDays (-upcomingWindowDays)).map fun date => ⟨date, now.time⟩

/-- The link to an occurrence. -/
def occurrenceLink (id : Id) : String := "/occurrences/" ++ toString id

/-- The item of an occurrence that has not been performed. -/
def occurrenceItem (now cutoff : DateTime) (row : Id × ControlOccurrence) : Option ReadinessItem :=
  row.2.dueAt.bind fun dueAt =>
    if dueAt < now then
      some {
        category := .occurrenceOverdue
        reason := s!"Due {dueAt.date.isoformat}, not yet performed"
        link := occurrenceLink row.1
        controlId := some row.2.controlId
        dueOn := some dueAt.date }
    else if dueAt ≤ cutoff then
      some {
        category := .occurrenceUpcoming
        reason := s!"Due {dueAt.date.isoformat}"
        link := occurrenceLink row.1
        controlId := some row.2.controlId
        dueOn := some dueAt.date }
    else none

/-- The item of an occurrence that has been performed, without links to evidence. -/
def missingEvidenceItem (row : Id × ControlOccurrence) : Option ReadinessItem :=
  match row.2.performedAt, row.2.evidenceSnapshotIds, row.2.evidenceArtifactVersionIds with
  | some performedAt, [], [] => some {
      category := .occurrenceMissingEvidence
      reason := s!"Performed {dateText performedAt} with no evidence linked"
      link := occurrenceLink row.1
      controlId := some row.2.controlId
      dueOn := none }
  | _, _, _ => none

variable (db : Database) (clock : Clock)

/-- `_compute_occurrence_items`. -/
def computeOccurrenceItems : Option (List ReadinessItem) :=
  (upcomingCutoff clock.occurrences).map fun cutoff =>
    (db.controlOccurrences.items.filter fun row => row.2.performedAt.isNone).filterMap
      (occurrenceItem clock.occurrences cutoff)

/-- `_compute_occurrence_missing_evidence_items`. -/
def computeOccurrenceMissingEvidenceItems : List ReadinessItem :=
  db.controlOccurrences.items.filterMap missingEvidenceItem

/-- `_compute_evidence_stale_items`. -/
def computeEvidenceStaleItems : List ReadinessItem :=
  db.evidenceSnapshots.items.filterMap fun row =>
    row.2.expiresAt.bind fun expiresAt =>
      if expiresAt < clock.evidence then
        some {
          category := .evidenceStale
          reason := s!"Expired {expiresAt.date.isoformat}"
          link := "/evidence/" ++ toString row.1
          controlId := none
          dueOn := some expiresAt.date }
      else none

/-- `_compute_control_test_failed_no_finding_items`. -/
def computeControlTestFailedNoFindingItems : List ReadinessItem :=
  (db.controlTests.items.filter fun row => row.2.result = .exceptionsNoted ∧
    db.findings.items.all fun finding => finding.2.sourceTestId ≠ some row.1).map fun row => {
      category := .controlTestFailedNoFinding
      reason := s!"Tested {dateText row.2.performedAt} with exceptions noted, no finding opened"
      link := "/control-tests/" ++ toString row.1
      controlId := some row.2.controlId
      dueOn := none }

/-- Why a finding needs attention. -/
def attentionReason (today : Date) : Option Date → String
  | none => "No due date set"
  | some dueDate =>
    if dueDate < today then s!"Overdue since {dueDate.isoformat}" else s!"Due {dueDate.isoformat}"

/-- The item of a finding. -/
def findingItem (category : ReadinessCategory) (reason : String) (dueOn : Option Date)
    (row : Id × Finding) : ReadinessItem where
  category := category
  reason := reason
  link := "/findings/" ++ toString row.1
  controlId := row.2.controlId
  dueOn := dueOn

/-- `_compute_finding_items`. -/
def computeFindingItems : List ReadinessItem :=
  let needsAttention := db.findings.items.filter fun row =>
    row.2.status = .opened ∨ row.2.status = .remediating
  let needsRetest := db.findings.items.filter fun row => row.2.status = .retesting
  let missingOwner := db.findings.items.filter fun row =>
    row.2.status ≠ .closed ∧ row.2.ownerPersonId = none
  needsAttention.map (fun row => findingItem .findingNeedsAttention
    (attentionReason clock.findings row.2.dueDate) row.2.dueDate row) ++
  needsRetest.map (fun row => findingItem .findingNeedsRetest
    "Remediated and awaiting a recorded retest" row.2.dueDate row) ++
  missingOwner.map (fun row => findingItem .findingMissingOwner "No owner assigned" none row)

/-- The control has no owner. -/
def InternalControl.missesOwner (control : InternalControl) : Bool :=
  control.ownerPersonId = none ∧ control.owner = ""

/-- `_compute_control_missing_owner_items`. -/
def computeControlMissingOwnerItems : List ReadinessItem :=
  (db.internalControls.items.filter fun row => row.2.missesOwner).map fun row => {
    category := .controlMissingOwner
    reason := "No owner assigned"
    link := "/controls/" ++ toString row.1
    controlId := some row.1
    dueOn := none }

/-- `_compute_policy_review_overdue_items`. -/
def computePolicyReviewOverdueItems : List ReadinessItem :=
  db.policies.items.filterMap fun row =>
    row.2.nextReviewDate.bind fun nextReviewDate =>
      if row.2.archived = false ∧ nextReviewDate < clock.policies then
        some {
          category := .policyReviewOverdue
          reason := s!"Review was due {nextReviewDate.isoformat}"
          link := "/policies/" ++ toString row.1
          controlId := none
          dueOn := some nextReviewDate }
      else none

/-! ## The queue -/

/-- A set of ids in a dictionary of sets, after
    `setdefault(control_id, set()).add(framework_id)`. -/
def addFramework (mapping : Dict Id (List Id)) (row : Id × Id) : Dict Id (List Id) :=
  mapping.set row.1 (((mapping.get? row.1).getD []).insert row.2)

/-- The controls with the frameworks of their requirements. -/
def mappedFrameworks : List (Id × Id) :=
  db.controlRequirementMappings.filterMap fun mapping =>
    (db.frameworkRequirements.get? mapping.2).map fun frameworkId => (mapping.1, frameworkId)

/-- `_control_ids_by_framework`. -/
def controlIdsByFramework : Dict Id (List Id) := (mappedFrameworks db).foldl addFramework .empty

/-- `datetime.date.max`. -/
def dateMax : Date where
  year := 9999
  month := 12
  day := 31
  year_mem := by decide
  month_mem := by decide
  day_mem := by decide

/-- `sort_key`. -/
def sortKey (item : ReadinessItem) : Bool ×ₗ Date ×ₗ String :=
  toLex (item.dueOn.isNone, toLex (item.dueOn.getD dateMax, item.category.value))

/-- `sorted(items, key=sort_key)`. -/
def sortItems (items : List ReadinessItem) : List ReadinessItem :=
  items.insertionSort fun x y => sortKey x ≤ sortKey y

/-- The items of all computations. -/
def allItems : Option (List ReadinessItem) :=
  (computeOccurrenceItems db clock).map fun occurrenceItems =>
    occurrenceItems ++
    computeOccurrenceMissingEvidenceItems db ++
    computeEvidenceStaleItems db clock ++
    computeControlTestFailedNoFindingItems db ++
    computeFindingItems db clock ++
    computeControlMissingOwnerItems db ++
    computePolicyReviewOverdueItems db clock

/-- Whether the item is kept for a framework. -/
def matchesFramework (controlFrameworks : Dict Id (List Id)) (frameworkId : Id)
    (item : ReadinessItem) : Bool :=
  match item.controlId with
  | none => true
  | some controlId => frameworkId ∈ (controlFrameworks.get? controlId).getD []

/-- `compute_readiness_queue`. -/
def computeReadinessQueue (frameworkId : Option Id) : Option (List ReadinessItem) :=
  (allItems db clock).map fun items =>
    match frameworkId with
    | none => sortItems items
    | some frameworkId =>
      sortItems (items.filter (matchesFramework (controlIdsByFramework db) frameworkId))

/-! ## Onboarding -/

/-- `OnboardingStep`. -/
structure OnboardingStep where
  key : String
  title : String
  description : String
  isComplete : Bool
  actionUrl : String
  actionLabel : String
  deriving Repr

/-- `get_compliance_scope`. -/
def getComplianceScope : Option Id := db.complianceScopes.head?

/-- `get_primary_framework`. -/
def getPrimaryFramework : Option Id :=
  (db.frameworks.items.find? fun row => row.2).map Prod.fst

/-- `_framework_fully_covered`. -/
def frameworkFullyCovered (frameworkId : Id) : Bool :=
  db.frameworkRequirements.items.all fun row => row.2 = frameworkId →
    row.1 ∈ db.controlRequirementMappings.map Prod.snd

/-- `_any_control_missing_owner`. -/
def anyControlMissingOwner : Bool := db.internalControls.items.any fun row => row.2.missesOwner

/-- `compute_onboarding_steps`, with `settings.evidence_repository_configured`. -/
def computeOnboardingSteps (evidenceRepositoryConfigured : Bool) : List OnboardingStep :=
  [{ key := "define_scope"
     title := "Define compliance scope"
     description := "Describe the service being audited, select SOC 2 Trust Services Categories, "
       ++ "and set a target audit period."
     isComplete := (getComplianceScope db).isSome
     actionUrl := "/onboarding/scope"
     actionLabel := if (getComplianceScope db).isNone then "Define scope" else "Review scope" },
   { key := "scope_people_systems"
     title := "Identify people and systems in scope"
     description := "Flag which people and vendor systems are part of this compliance program."
     isComplete := db.people.items.any (·.2) || db.vendorSystems.items.any (·.2)
     actionUrl := "/people"
     actionLabel := "Review people" },
   { key := "starter_controls"
     title := "Generate starter controls"
     description := "Create a placeholder control for every requirement your primary framework " ++
       "doesn't have one for yet."
     isComplete := (getPrimaryFramework db).any (frameworkFullyCovered db)
     actionUrl := "/onboarding"
     actionLabel := "Generate starter controls" },
   { key := "assign_owners"
     title := "Assign control owners"
     description := "Every control should have an owner accountable for operating it."
     isComplete := db.internalControls.items ≠ [] && !anyControlMissingOwner db
     actionUrl := "/controls"
     actionLabel := "Review controls" },
   { key := "evidence_source"
     title := "Configure an evidence source"
     description := "Connect at least one evidence source (the S3-compatible evidence " ++
       "repository, Google Drive, AWS, or an external connection)."
     isComplete := evidenceRepositoryConfigured || db.googleDriveConnections ≠ [] ||
       db.awsConnections ≠ [] || db.externalConnections ≠ []
     actionUrl := "/connections"
     actionLabel := "Configure a connection" },
   { key := "operating_period"
     title := "Start an operating period"
     description := "Open an active control period so occurrence generation and tracking can begin."
     isComplete := db.controlPeriods.items.any fun row => row.2.status = .active
     actionUrl := "/control-periods"
     actionLabel := "Manage control periods" }]

/-! ## The stage -/

/-- `READINESS_STAGES`. -/
inductive ReadinessStage
  | scopeIncomplete
  | foundationIncomplete
  | operatingControls
  | evidenceGaps
  | testingRemediationIncomplete
  | auditPackageReady
  deriving DecidableEq, Repr

/-- `ReadinessStageResult`. -/
structure ReadinessStageResult where
  stage : ReadinessStage
  reason : String
  deriving Repr

/-- `_EVIDENCE_GAP_CATEGORIES`. -/
def evidenceGapCategories : List ReadinessCategory :=
  [.occurrenceOverdue, .occurrenceMissingEvidence, .evidenceStale]

/-- `_TESTING_REMEDIATION_CATEGORIES`. -/
def testingRemediationCategories : List ReadinessCategory :=
  [.controlTestFailedNoFinding, .findingNeedsAttention, .findingNeedsRetest, .controlMissingOwner,
    .findingMissingOwner, .policyReviewOverdue]

/-- `categories_present & categories`. -/
def hits (queue : List ReadinessItem) (categories : List ReadinessCategory) :
    List ReadinessCategory :=
  categories.filter fun category => category ∈ queue.map (·.category)

/-- `onboarding_steps[key].is_complete`, in the dictionary of the steps. -/
def isComplete (steps : List OnboardingStep) (key : String) : Option Bool :=
  (Dict.ofList (steps.map fun step => (step.key, step))).get? key |>.map (·.isComplete)

/-- The stage of a queue. -/
def stageOfQueue (queue : List ReadinessItem) : ReadinessStageResult :=
  if hits queue evidenceGapCategories ≠ [] then
    ⟨.evidenceGaps, s!"{(hits queue evidenceGapCategories).length} evidence-related gap " ++
      "category(ies) are open."⟩
  else if hits queue testingRemediationCategories ≠ [] then
    ⟨.testingRemediationIncomplete, s!"{(hits queue testingRemediationCategories).length} " ++
      "testing/remediation gap category(ies) are open."⟩
  else ⟨.auditPackageReady, "No outstanding readiness gaps were found."⟩

/-- `compute_readiness_stage`. -/
def computeReadinessStage (evidenceRepositoryConfigured : Bool) : Option ReadinessStageResult := do
  if getComplianceScope db = none then
    return ⟨.scopeIncomplete, "No compliance scope has been defined yet."⟩
  let steps := computeOnboardingSteps db evidenceRepositoryConfigured
  if !(← isComplete steps "starter_controls") then
    return ⟨.foundationIncomplete, "Starter controls are not generated for every requirement yet."⟩
  if !(← isComplete steps "assign_owners") then
    return ⟨.foundationIncomplete, "One or more controls has no owner assigned."⟩
  if !(← isComplete steps "operating_period") then
    return ⟨.operatingControls, "No control period is active yet."⟩
  return stageOfQueue (← computeReadinessQueue db clock none)

end MiniGrc.Readiness
