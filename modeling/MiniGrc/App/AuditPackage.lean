import MiniGrc.App.ComplianceScope
import MiniGrc.App.ConnectorLifecycle
import MiniGrc.App.EvidenceRepository
import MiniGrc.App.FindingLifecycle
import MiniGrc.App.PolicyLifecycle
import MiniGrc.App.PolicyStorage

/-!
# The audit package

`app/audit_package.py`: what of the records belongs to an audit period, and the archive that
is made of it. The bytes of a ZIP archive stand for the entries that they are made of, in
the order in which these were written. A query without an order lists rows by their ids.
-/

namespace MiniGrc.AuditPackage

open ComplianceScopes (ComplianceScope)
open ControlOccurrences (CadenceType ControlOccurrence Origin)
open ControlTests (ControlTest ControlTestException TestResult)
open EvidenceRepository (EvidenceArtifactVersion)
open FindingLifecycle (ClosureDecision Finding FindingRemediationUpdate FindingSeverity
  FindingStatus)
open Connectors (EvidenceSnapshot)
open PolicyLifecycle VersionLifecycle

/-! ## The period -/

/-- `start` and `end`. -/
structure Period where
  startsOn : Date
  endsOn : Date

/-- A period that does not end before it starts; `_validate_period` refuses others. -/
structure AuditPeriod extends Period where
  startsOn_le : startsOn ≤ endsOn

/-- `start <= day <= end`, for the ordinal of a day. -/
def Period.covers (period : Period) (day : Nat) : Bool :=
  decide (period.startsOn.toordinal ≤ day) && decide (day ≤ period.endsOn.toordinal)

/-- `_occurrence_in_period`. -/
def occurrenceInPeriod (period : Period) (occurrence : ControlOccurrence) : Bool :=
  (occurrence.dueAt.any fun dueAt => period.covers dueAt.date.toordinal) ||
    occurrence.performedAt.any fun performedAt => period.covers (Time.dateOrdinal performedAt)

/-- `_test_in_period`. -/
def testInPeriod (period : Period) (test : ControlTest) : Bool :=
  period.covers (Time.dateOrdinal test.performedAt)

/-- The condition on a version in `_policy_versions_for_period`. -/
def policyVersionInPeriod (period : Period) (version : PolicyVersion) : Bool :=
  match version.effectiveAt with
  | none => false
  | some effectiveAt =>
    decide (Time.dateOrdinal effectiveAt ≤ period.endsOn.toordinal) &&
      match version.supersededAt with
      | none => true
      | some supersededAt => decide (period.startsOn.toordinal ≤ Time.dateOrdinal supersededAt)

/-- `_policy_versions_for_period`, over the rows of `policy.versions`; `version` takes the
    columns from a row that the condition looks at. -/
def policyVersionsForPeriod {ρ : Type} (version : ρ → PolicyVersion) (versions : List (Id × ρ))
    (period : Period) : List (Id × ρ) :=
  versions.filter fun x => policyVersionInPeriod period (version x.2)

/-- `_finding_in_period`. -/
def findingInPeriod (period : Period) (inPeriodTestIds : List Id) (finding : Finding) : Bool :=
  (finding.sourceTestId.any fun id => id ∈ inPeriodTestIds) ||
    period.covers (Time.dateOrdinal finding.createdAt) || finding.status ≠ .closed

end MiniGrc.AuditPackage
