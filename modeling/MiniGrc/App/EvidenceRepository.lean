import MiniGrc.App.Aggregates

/-!
# Evidence-artifact versions

`app/evidence_repository.py` and the `EvidenceArtifactVersion` table of `app/models.py`.
The bytes are uploaded before the event is appended; an upload that fails raises before
anything is stored, and is left out.
-/

namespace MiniGrc.EvidenceRepository

open Events

/-- The payload of `EvidenceArtifactVersionCaptured`. -/
structure Captured where
  artifactId : Id
  versionNumber : Nat
  objectKey : String
  originalFilename : String
  mediaType : String
  byteSize : Nat
  sha256 : String
  sourceType : String
  sourceConnectionId : Option String
  sourceObjectId : Option String
  sourceRevisionId : Option String
  sourceModifiedAt : Option Time
  linkedEvidenceSnapshotId : Option Id
  deriving DecidableEq, Repr

/-- A row of `evidence_artifact_versions`; the key is its `id`. -/
structure EvidenceArtifactVersion extends Captured where
  capturedAt : Time
  actorType : String
  actorId : Option String
  deriving DecidableEq, Repr

/-- The bodies of the events of the type `evidence_artifact_version`. -/
inductive Body
  | captured (payload : Captured)
  deriving DecidableEq, Repr

/-- A row of `domain_events` of this type. -/
abbrev Event := DomainEvent Id Body String

/-- The row that `_project_captured` adds. -/
def projectCaptured (event : Event) (payload : Captured) : EvidenceArtifactVersion where
  toCaptured := payload
  capturedAt := event.occurredAt
  actorType := event.actorType
  actorId := event.actorId

/-- `EVIDENCE_ARTIFACT_VERSION_PROJECTORS`. -/
def row (version : Option EvidenceArtifactVersion) (event : Event) :
    Except PyError EvidenceArtifactVersion :=
  match event.body, version with
  | .captured payload, none => .ok (projectCaptured event payload)
  | .captured _, some _ => .error .integrityError

/-- The foreign keys of a version. -/
def foreignKeys (version : EvidenceArtifactVersion) : List (TableName × Id) :=
  (.evidenceArtifacts, version.artifactId) ::
    version.linkedEvidenceSnapshotId.toList.map (.evidenceSnapshots, ·)

/-- `uq_evidence_artifact_version`. -/
def constraints : Constraints EvidenceArtifactVersion where
  conflict v v' := v.artifactId = v'.artifactId ∧ v.versionNumber = v'.versionNumber
  refs _ := []

/-- The aggregate type `evidence_artifact_version`. -/
def aggregateType : AggregateType EvidenceArtifactVersion Body := ⟨row, foreignKeys, constraints⟩

/-! ## The commands -/

/-- A session on the versions. -/
abbrev EvidenceSession := Session (Table EvidenceArtifactVersion) Body

/-- The arguments of `capture_evidence_version` that describe the file and its source. -/
structure File where
  sha256 : String
  byteSize : Nat
  mediaType : String
  originalFilename : String
  extension : String
  sourceType : String := "manual"
  sourceConnectionId : Option String := none
  sourceObjectId : Option String := none
  sourceRevisionId : Option String := none
  sourceModifiedAt : Option Time := none
  linkedEvidenceSnapshotId : Option Id := none

/-- `artifact.versions`, from the rows. -/
def versionsOf (rows : Table EvidenceArtifactVersion) (artifactId : Id) :
    List EvidenceArtifactVersion :=
  (rows.toList.map Prod.snd).filter fun v => v.artifactId = artifactId

/-- `artifact.latest_version.version_number + 1`, or `1`, from the versions. -/
def nextVersionNumber (versions : List EvidenceArtifactVersion) : Nat :=
  match (versions.map fun v => v.versionNumber).max? with
  | some latest => latest + 1
  | none => 1

/-- `object_key_for`. -/
def objectKeyFor (artifactId versionId : Id) (extension : String) : String :=
  let safe := String.ofList ((extension.toList.filter Char.isAlphanum).take 16)
  let safeExtension := if safe = "" then "bin" else safe
  s!"evidence/{artifactId}/{versionId}/content.{safeExtension}"

/-- The commands on evidence-artifact versions. -/
inductive Command
  /-- a capture under the fresh `new_id()` -/
  | capture (id artifactId : Id) (file : File) (actor : Actor) (occurredAt : Option Time)

variable (P : Projection (Table EvidenceArtifactVersion) Body) (clock : Clock)
  (s : EvidenceSession)

/-- `capture_evidence_version`: content that the artifact has already is not stored again. -/
def captureEvidenceVersion (id artifactId : Id) (file : File) (actor : Actor)
    (occurredAt : Option Time) : Outcome EvidenceSession :=
  if ∃ v ∈ versionsOf s.rows artifactId, v.sha256 = file.sha256 then .returned s
  else
    appendAndProject P clock s
      { aggregate := id
        body := .captured {
          artifactId := artifactId
          versionNumber := nextVersionNumber (versionsOf s.rows artifactId)
          objectKey := objectKeyFor artifactId id file.extension
          originalFilename := file.originalFilename
          mediaType := file.mediaType
          byteSize := file.byteSize
          sha256 := file.sha256
          sourceType := file.sourceType
          sourceConnectionId := file.sourceConnectionId
          sourceObjectId := file.sourceObjectId
          sourceRevisionId := file.sourceRevisionId
          sourceModifiedAt := file.sourceModifiedAt
          linkedEvidenceSnapshotId := file.linkedEvidenceSnapshotId }
        occurredAt := occurredAt
        actorType := actor.actorType
        actorId := actor.actorId }

/-- Run a command. -/
def Command.run : Command → Outcome EvidenceSession
  | .capture id artifactId file actor occurredAt =>
    captureEvidenceVersion P clock s id artifactId file actor occurredAt

end MiniGrc.EvidenceRepository
