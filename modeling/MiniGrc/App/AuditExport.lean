import MiniGrc.App.AuditPackage

/-!
# The export of an audit package

`generate_audit_package` and the `_serialize_*` functions of `app/audit_package.py`. A ZIP
archive stands for the entries that were written into it, in order. A query without an
order lists rows by their ids.

SHA-256, with its hexadecimal digest, and `download_object` are parameters.
-/

namespace MiniGrc.AuditPackage

open ComplianceScopes (ComplianceScope)
open ControlOccurrences (CadenceType ControlOccurrence Origin)
open ControlTests (ControlTest ControlTestException TestResult)
open EvidenceRepository (EvidenceArtifactVersion)
open FindingLifecycle (ClosureDecision Finding FindingRemediationUpdate FindingSeverity
  FindingStatus)
open Connectors (EvidenceSnapshot)
open PolicyStorage (Files StoredUpload)
open PolicyLifecycle VersionLifecycle

/-! ## The records -/

/-- A row of `framework_requirements`, with its `id`. -/
structure FrameworkRequirement where
  id : Id
  referenceCode : String
  title : String
  summary : String

/-- The columns of a `frameworks` row that are exported, and its requirements in display
    order; the key is its `id`. -/
structure Framework where
  name : String
  version : String
  isActive : Bool
  isPrimary : Bool
  catalogKey : Option String
  requirements : List FrameworkRequirement

/-- The columns of an `internal_controls` row that are exported; the key is its `id`. -/
structure InternalControl where
  name : String
  description : String
  owner : String
  ownerPersonId : Option Id
  status : String
  cadenceType : Option CadenceType
  cadenceIntervalMonths : Option Int

/-- The columns of a `policies` row that are exported; the key is its `id`. -/
structure Policy where
  title : String
  owner : String

/-- A row of `policy_versions` with its file; the key is its `id`. -/
structure FiledVersion extends PolicyVersion, StoredUpload

/-- The tables that are exported. The fields below them are what the database enforces. -/
structure Records where
  scopes : Table ComplianceScope
  frameworks : Table Framework
  controls : Table InternalControl
  /-- `control_requirement_mappings`: the control and the requirement -/
  requirementMappings : List (Id × Id)
  occurrences : Table ControlOccurrence
  tests : Table ControlTest
  findings : Table Finding
  snapshots : Table EvidenceSnapshot
  artifactVersions : Table EvidenceArtifactVersion
  policies : Table Policy
  policyVersions : Table FiledVersion
  /-- `policy_control_mappings`: the policy and the control -/
  policyControlMappings : List (Id × Id)
  occurrenceLinks : ∀ (k : Id) o, occurrences[k]? = some o →
    ∀ id ∈ o.evidenceArtifactVersionIds, id ∈ artifactVersions
  testLinks : ∀ (k : Id) t, tests[k]? = some t →
    ∀ id ∈ t.evidenceArtifactVersionIds, id ∈ artifactVersions
  /-- `uq_policy_version_number` -/
  versionNumbers : ∀ (k k' : Id) v v', policyVersions[k]? = some v → policyVersions[k']? = some v' →
    v.policyId = v'.policyId → v.versionNumber = v'.versionNumber → k = k'

/-- `get_compliance_scope`. -/
def Records.complianceScope (records : Records) : Option ComplianceScope :=
  (records.scopes.toList.map Prod.snd).head?

/-- `policy.versions`, in the order of the relationship. -/
def Records.versionsOf (records : Records) (policyId : Id) : List (Id × FiledVersion) :=
  (records.policyVersions.toList.filter fun x => x.2.policyId = policyId).insertionSort
    fun x y => y.2.versionNumber ≤ x.2.versionNumber

/-! ## Texts -/

/-- The origin as a string. -/
def originText : Origin → String
  | .generated => "generated"
  | .manual => "manual"

/-- The cadence type as a string. -/
def cadenceTypeText : CadenceType → String
  | .calendar => "calendar"
  | .eventDriven => "event_driven"

/-- The result of a test as a string. -/
def testResultText : TestResult → String
  | .noExceptions => "no_exceptions"
  | .exceptionsNoted => "exceptions_noted"

/-- The severity of a finding as a string. -/
def severityText : FindingSeverity → String
  | .low => "low"
  | .medium => "medium"
  | .high => "high"
  | .critical => "critical"

/-- The status of a finding as a string. -/
def findingStatusText : FindingStatus → String
  | .opened => "open"
  | .remediating => "remediating"
  | .retesting => "retesting"
  | .closed => "closed"

/-- The closure decision as a string. -/
def closureDecisionText : ClosureDecision → String
  | .remediatedAndRetested => "remediated_and_retested"
  | .riskAccepted => "risk_accepted"
  | .falsePositive => "false_positive"
  | .other => "other"

/-- The status of a policy version as a string. -/
def lifecycleStatusText : LifecycleStatus → String
  | .draft => "draft"
  | .inReview => "in_review"
  | .approved => "approved"
  | .effective => "effective"
  | .superseded => "superseded"
  | .withdrawn => "withdrawn"

/-- `DISCLAIMER`. -/
def disclaimer : String :=
  "This package is a factual export of miniGRC's authoritative compliance records. " ++
    "It is not an auditor's opinion, attestation, or certification of compliance."

/-- An id. -/
def idJson (id : Id) : Json := .str (toString id)

/-- An id or `None`. -/
def optionalIdJson (id : Option Id) : Json := Json.ofOption (id.map fun id => toString id)

/-- `_iso`, of a time. -/
def isoJson (time : Option Time) : Json := Json.ofOption (time.map Time.isoformat)

/-- `_iso`, of a date. -/
def isoDateJson (date : Option Date) : Json := Json.ofOption (date.map Date.isoformat)

/-! ## The serializers -/

/-- `_serialize_scope`. -/
def serializeScope (scope : ComplianceScope) : Json := .dict [
  ("service_description", .str scope.serviceDescription),
  ("trust_service_categories", .list ((scope.trustServiceCategories.splitOn ",").map .str)),
  ("audit_period_starts_on", isoDateJson scope.auditPeriodStartsOn),
  ("audit_period_ends_on", isoDateJson scope.auditPeriodEndsOn),
  ("data_categories", .str scope.dataCategories),
  ("locations", .str scope.locations),
  ("exclusions", .str scope.exclusions),
  ("exclusions_rationale", .str scope.exclusionsRationale),
  ("revision", .int scope.revision)]

/-- An element of `_serialize_frameworks`. -/
def serializeFramework (id : Id) (framework : Framework) : Json := .dict [
  ("id", idJson id),
  ("name", .str framework.name),
  ("version", .str framework.version),
  ("is_primary", .bool framework.isPrimary),
  ("catalog_key", Json.ofOption framework.catalogKey),
  ("requirements", .list (framework.requirements.map fun r => .dict [
    ("id", idJson r.id), ("reference_code", .str r.referenceCode), ("title", .str r.title),
    ("summary", .str r.summary)]))]

/-- `_serialize_frameworks`. -/
def serializeFrameworks (records : Records) : Json :=
  .list ((records.frameworks.toList.filter fun x => x.2.isActive).map fun x =>
    serializeFramework x.1 x.2)

/-- An element of `_serialize_controls`. -/
def serializeControl (records : Records) (id : Id) (control : InternalControl) : Json := .dict [
  ("id", idJson id),
  ("name", .str control.name),
  ("description", .str control.description),
  ("owner", .str control.owner),
  ("owner_person_id", optionalIdJson control.ownerPersonId),
  ("status", .str control.status),
  ("cadence_type", Json.ofOption (control.cadenceType.map cadenceTypeText)),
  ("cadence_interval_months", (control.cadenceIntervalMonths.map .int).getD .null),
  ("mapped_requirement_ids", .list
    ((records.requirementMappings.filter fun x => x.1 = id).map fun x => idJson x.2))]

/-- `_serialize_controls`. -/
def serializeControls (records : Records) : Json :=
  .list (records.controls.toList.map fun x => serializeControl records x.1 x.2)

/-- An element of `_serialize_occurrences`. -/
def serializeOccurrence (id : Id) (occurrence : ControlOccurrence) : Json := .dict [
  ("id", idJson id),
  ("control_id", idJson occurrence.controlId),
  ("control_period_id", optionalIdJson occurrence.controlPeriodId),
  ("origin", .str (originText occurrence.origin)),
  ("due_at", Json.ofOption (occurrence.dueAt.map DateTime.isoformat)),
  ("performed_at", isoJson occurrence.performedAt),
  ("performed_by_person_id", optionalIdJson occurrence.performedByPersonId),
  ("scope_note", .str occurrence.scopeNote),
  ("evidence_note", .str occurrence.evidenceNote),
  ("linked_evidence_snapshot_ids", .list (occurrence.evidenceSnapshotIds.map idJson)),
  ("linked_evidence_artifact_version_ids",
    .list (occurrence.evidenceArtifactVersionIds.map idJson))]

/-- `_serialize_occurrences`. -/
def serializeOccurrences (occurrences : List (Id × ControlOccurrence)) : Json :=
  .list (occurrences.map fun x => serializeOccurrence x.1 x.2)

/-- An element of `_serialize_tests`. -/
def serializeTest (id : Id) (test : ControlTest) : Json := .dict [
  ("id", idJson id),
  ("control_id", idJson test.controlId),
  ("control_period_id", optionalIdJson test.controlPeriodId),
  ("sample_id", optionalIdJson test.sampleId),
  ("procedure_description", .str test.procedureDescription),
  ("tester_person_id", idJson test.testerPersonId),
  ("performed_at", isoJson (some test.performedAt)),
  ("result", .str (testResultText test.result)),
  ("notes", .str test.notes),
  ("retest_of_test_id", optionalIdJson test.retestOfTestId),
  ("exceptions", .list (test.exceptions.map fun e => .dict [
    ("sample_item_id", optionalIdJson e.sampleItemId), ("description", .str e.description)])),
  ("linked_evidence_artifact_version_ids", .list (test.evidenceArtifactVersionIds.map idJson))]

/-- `_serialize_tests`. -/
def serializeTests (tests : List (Id × ControlTest)) : Json :=
  .list (tests.map fun x => serializeTest x.1 x.2)

/-- `_serialize_findings` reads the remediation updates in the order of their creation. -/
def updatesInOrder (finding : Finding) : List FindingRemediationUpdate :=
  finding.remediationUpdates.insertionSort fun u u' => u.createdAt ≤ u'.createdAt

/-- An element of `_serialize_findings`. -/
def serializeFinding (id : Id) (finding : Finding) : Json := .dict [
  ("id", idJson id),
  ("title", .str finding.title),
  ("description", .str finding.description),
  ("severity", .str (severityText finding.severity)),
  ("status", .str (findingStatusText finding.status)),
  ("control_id", optionalIdJson finding.controlId),
  ("source_test_id", optionalIdJson finding.sourceTestId),
  ("owner_person_id", optionalIdJson finding.ownerPersonId),
  ("due_date", isoDateJson finding.dueDate),
  ("closure_decision", Json.ofOption (finding.closureDecision.map closureDecisionText)),
  ("closure_note", .str finding.closureNote),
  ("created_at", isoJson (some finding.createdAt)),
  ("remediation_updates", .list ((updatesInOrder finding).map fun u => .dict [
    ("note", .str u.note), ("actor", .str u.actor),
    ("created_at", isoJson (some u.createdAt))])),
  ("retest_test_ids", .list (finding.retestTestIds.map idJson))]

/-- `_serialize_findings`. -/
def serializeFindings (findings : List (Id × Finding)) : Json :=
  .list (findings.map fun x => serializeFinding x.1 x.2)

/-- An element of `evidence_snapshots.json`. -/
def serializeSnapshot (id : Id) (snapshot : EvidenceSnapshot) : Json := .dict [
  ("id", idJson id),
  ("source_type", .str snapshot.sourceType),
  ("check_key", .str snapshot.checkKey),
  ("status", .str snapshot.status),
  ("title", .str snapshot.title),
  ("summary", .str snapshot.summary),
  ("collected_at", isoJson (some snapshot.collectedAt)),
  ("raw_payload_sha256", .str snapshot.rawPayloadSha256)]

/-- A version in an element of `policies.json`. -/
def serializeVersion (version : FiledVersion) : Json := .dict [
  ("version_number", .int version.versionNumber),
  ("lifecycle_status", .str (lifecycleStatusText version.lifecycleStatus)),
  ("effective_at", isoJson version.effectiveAt),
  ("superseded_at", isoJson version.supersededAt),
  ("sha256", .str version.sha256)]

/-- An element of `policies.json`. -/
def serializePolicy (records : Records) (id : Id) (policy : Policy)
    (versions : List (Id × FiledVersion)) : Json := .dict [
  ("id", idJson id),
  ("title", .str policy.title),
  ("owner", .str policy.owner),
  ("mapped_control_ids", .list
    ((records.policyControlMappings.filter fun x => x.1 = id).map fun x => idJson x.2)),
  ("versions", .list (versions.map fun x => serializeVersion x.2))]

/-! ## The archive -/

/-- An entry of the archive: its path and its bytes. -/
abbrev ArchiveEntry := String × Bytes

/-- The name under which `ZipInfo` files an entry: it ends at the first null character. -/
def zipInfoFilename (path : String) : String :=
  .ofList (path.toList.takeWhile fun c => c ≠ Char.ofNat 0)

/-- An element of `manifest_entries`. -/
structure ManifestFile where
  path : String
  sha256 : String
  byteSize : Nat

/-- What `manifest_entries` says of an entry. -/
def manifestFile (sha256 : Bytes → String) (entry : ArchiveEntry) : ManifestFile :=
  ⟨entry.1, sha256 entry.2, entry.2.length⟩

/-- `write_json`. -/
def jsonEntry (path : String) (payload : Json) : ArchiveEntry := (path, payload.dumps)

/-- `evidence/<artifact id>/<version id>-`. -/
def evidenceStem (artifactId id : Id) : String := s!"evidence/{artifactId}/{id}-"

/-- `policies/<policy id>/version-<number>-`. -/
def policyStem (policyId : Id) (versionNumber : Nat) : String :=
  s!"policies/{policyId}/version-{versionNumber}-"

/-- The evidence repository: `settings.evidence_repository_configured`, and what
    `download_object` returns for a key, or the text of its error. -/
structure EvidenceStore where
  configured : Bool
  download : String → Except String Bytes

variable (sha256 : Bytes → String) (store : EvidenceStore) (files : Files) (records : Records)
  (period : Period)

/-- `occurrences`. -/
def occurrencesOf : List (Id × ControlOccurrence) :=
  records.occurrences.toList.filter fun x => occurrenceInPeriod period x.2

/-- `tests`. -/
def testsOf : List (Id × ControlTest) :=
  records.tests.toList.filter fun x => testInPeriod period x.2

/-- `findings`. -/
def findingsOf : List (Id × Finding) :=
  records.findings.toList.filter fun x =>
    findingInPeriod period ((testsOf records period).map Prod.fst) x.2

/-- `snapshot_ids`. -/
def snapshotIds : List Id := (occurrencesOf records period).flatMap fun x => x.2.evidenceSnapshotIds

/-- `artifact_version_ids`. -/
def artifactVersionIds : List Id :=
  ((occurrencesOf records period).flatMap fun x => x.2.evidenceArtifactVersionIds) ++
    (testsOf records period).flatMap fun x => x.2.evidenceArtifactVersionIds

/-- The entries for the records themselves. -/
def recordEntries (scope : ComplianceScope) : List ArchiveEntry :=
  [jsonEntry "scope.json" (serializeScope scope),
    jsonEntry "frameworks.json" (serializeFrameworks records),
    jsonEntry "controls.json" (serializeControls records),
    jsonEntry "occurrences.json"
      (serializeOccurrences (occurrencesOf records period)),
    jsonEntry "control_tests.json" (serializeTests (testsOf records period)),
    jsonEntry "findings.json" (serializeFindings (findingsOf records period))]

/-- The entry for the evidence snapshots, if one is linked. -/
def snapshotEntries : List ArchiveEntry :=
  if snapshotIds records period = [] then []
  else
    [jsonEntry "evidence_snapshots.json"
      (.list ((records.snapshots.toList.filter fun x => x.1 ∈ snapshotIds records period).map
        fun x => serializeSnapshot x.1 x.2))]

/-- The entry for a version of an evidence artifact. -/
def evidenceEntry (id : Id) (version : EvidenceArtifactVersion) : Except String ArchiveEntry :=
  match store.download version.objectKey with
  | .error text =>
    .error s!"Evidence artifact version '{id}' could not be retrieved: {text}"
  | .ok content =>
    if sha256 content ≠ version.sha256 then
      .error (s!"Evidence artifact version '{id}' failed integrity verification " ++
        "(stored hash does not match retrieved bytes).")
    else .ok (evidenceStem version.artifactId id ++ version.originalFilename, content)

/-- The entries for the versions of evidence artifacts. -/
def evidenceEntries : Except String (List ArchiveEntry) :=
  if artifactVersionIds records period = [] then .ok []
  else if store.configured = false then
    .error ("Evidence artifacts are referenced by this period but the evidence " ++
      "repository is not configured — cannot verify their bytes.")
  else
    (records.artifactVersions.toList.filter fun x =>
      x.1 ∈ artifactVersionIds records period).mapM fun x => evidenceEntry sha256 store x.1 x.2

/-- The entry for a version of a policy. -/
def policyEntry (policyId : Id) (policy : Policy) (version : FiledVersion) :
    Except String ArchiveEntry :=
  match files.file (policyId, version.versionNumber) version.storedFilename with
  | none =>
    .error (s!"Policy '{policy.title}' version {version.versionNumber} is missing " ++
      "its stored file.")
  | some content =>
    if sha256 content ≠ version.sha256 then
      .error (s!"Policy '{policy.title}' version {version.versionNumber} failed integrity " ++
        "verification (stored hash does not match the file on disk).")
    else .ok (policyStem policyId version.versionNumber ++ version.originalFilename, content)

/-- `relevant_versions`. -/
def relevantVersions (policyId : Id) : List (Id × FiledVersion) :=
  policyVersionsForPeriod FiledVersion.toPolicyVersion (records.versionsOf policyId) period

/-- The entries for the policies' versions, policy by policy. -/
def policyEntries : Except String (List (List ArchiveEntry)) :=
  records.policies.toList.mapM fun x =>
    (relevantVersions records period x.1).mapM fun y => policyEntry sha256 files x.1 x.2 y.2

/-- `policy_summaries`. -/
def policySummaries : Json :=
  .list ((records.policies.toList.filter fun x => relevantVersions records period x.1 ≠ []).map
    fun x => serializePolicy records x.1 x.2 (relevantVersions records period x.1))

/-- What is written before the manifest. -/
def entries (scope : ComplianceScope) : Except String (List ArchiveEntry) :=
  match evidenceEntries sha256 store records period with
  | .error e => .error e
  | .ok evidence =>
    match policyEntries sha256 files records period with
    | .error e => .error e
    | .ok policies =>
      .ok (recordEntries records period scope ++ snapshotEntries records period ++
        evidence ++ policies.flatten ++
        [jsonEntry "policies.json" (policySummaries records period)])

/-- The manifest. -/
structure Manifest where
  generatedAt : Time
  generatedBy : String
  period : Period
  files : List ManifestFile

/-- `manifest`. -/
def Manifest.json (manifest : Manifest) : Json := .dict [
  ("generated_at", .str (manifest.generatedAt.isoformat ++ "+00:00")),
  ("generated_by", .str manifest.generatedBy),
  ("audit_period_starts_on", isoDateJson (some manifest.period.startsOn)),
  ("audit_period_ends_on", isoDateJson (some manifest.period.endsOn)),
  ("disclaimer", .str disclaimer),
  ("files", .list (manifest.files.map fun file => .dict [
    ("path", .str file.path), ("sha256", .str file.sha256), ("byte_size", .int file.byteSize)]))]

/-- What `generate_audit_package` returns. -/
structure Package where
  archive : List ArchiveEntry
  manifestSha256 : String

/-- The manifest of what was written. -/
def manifestOf (now : Time) (actorEmail : String) (written : List ArchiveEntry) : Manifest where
  generatedAt := now
  generatedBy := actorEmail
  period := period
  files := (written.map (manifestFile sha256)).mergeSort fun file file' => file.path ≤ file'.path

/-- The archive with the manifest as its last entry. -/
def Manifest.package (manifest : Manifest) (written : List ArchiveEntry) : Package where
  archive := written ++ [("manifest.json", manifest.json.dumps)]
  manifestSha256 := sha256 (manifest.json.dumps)

/-- `generate_audit_package`, with the message of the `AuditPackageError`. -/
def generateAuditPackage (now : Time) (actorEmail : String) : Except String Package :=
  match records.complianceScope with
  | none => .error "No compliance scope has been defined yet — nothing to export."
  | some scope =>
    match scope.auditPeriodStartsOn, scope.auditPeriodEndsOn with
    | some startsOn, some endsOn =>
      (entries sha256 store files records ⟨startsOn, endsOn⟩ scope).map fun written =>
        (manifestOf sha256 ⟨startsOn, endsOn⟩ now actorEmail written).package sha256 written
    | _, _ => .error "The compliance scope has no audit period set — nothing to export."

end MiniGrc.AuditPackage
