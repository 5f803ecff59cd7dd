import MiniGrc.App.BackupManifest
import MiniGrc.App.EvidenceCapture
import MiniGrc.ForStd.PagedListing

/-!
# Backups while evidence is captured

`create_backup` beside any number of sessions that capture evidence. A backup goes through

    idle → listing → downloading → finished

and fails when the dump or a download fails, such as that of an object which has been
deleted since it was listed. The dump sees what is committed at one moment. The bucket is
listed page by page, each page at its own time, and each object is read at its own time.
Of the dumped database only the evidence-artifact versions are kept.

The sessions and the backup run under the same settings. A capture needs a client, and
`build_s3_client` raises where the evidence repository is not configured.
-/

namespace MiniGrc.BackupRestore

open EvidenceRepository
open EvidenceCapture (ObjectStore)

variable {ι : Type} {sha256 : Bytes → String}

/-- `EVIDENCE_PREFIX`. -/
def evidencePrefix : String := "evidence/"

/-- The keys in the bucket that a listing with the prefix `EVIDENCE_PREFIX` finds, in order. -/
def evidenceKeys (objects : ObjectStore) : List String :=
  objects.keys.filter fun objectKey => evidencePrefix.toList.isPrefixOf objectKey.toList

/-- What `create_backup` leaves in its directory. -/
structure Backup where
  database : Table EvidenceArtifactVersion
  manifest : BackupManifest

/-- Where a backup stands. -/
inductive BackupPc
  | idle
  /-- the database is dumped; the next page is -/
  | listing (database : Table EvidenceArtifactVersion) (listed : List String)
  /-- the objects are downloaded; the manifest comes after the last one -/
  | downloading (database : Table EvidenceArtifactVersion) (objectKeys : List String)
      (evidenceObjects : List EvidenceObjectRecord)
  | finished (backup : Backup)
  | failed

/-- The sessions and the backup. -/
structure BackupState (ι : Type) (sha256 : Bytes → String) where
  captures : EvidenceCapture.State ι sha256
  backup : BackupPc

/-- The steps of the system. -/
inductive BackupLabel (ι : Type) (sha256 : Bytes → String)
  /-- a session takes a step -/
  | capture (label : EvidenceCapture.Label ι sha256)
  /-- the database is dumped -/
  | dump
  /-- the next page of the listing, with room for `size` keys -/
  | page (size : Nat)
  /-- the next object is downloaded -/
  | download
  /-- the manifest is written -/
  | write (createdAt : Time)
  /-- the backup fails for a reason outside the code -/
  | fail

/-- The record of a downloaded object. -/
def EvidenceObjectRecord.of (sha256 : Bytes → String) (objectKey : String) (content : Bytes) :
    EvidenceObjectRecord where
  objectKey := objectKey
  byteSize := content.length
  sha256 := sha256 content

/-- Nothing is stored but the objects of others, and no backup has begun. -/
def BackupState.initial (objects : ObjectStore) : BackupState ι sha256 where
  captures := .initial objects
  backup := .idle

/-- One step of the system; `none` when it is not possible in the state. -/
def backupStep [DecidableEq ι] [Fintype ι] (settings : Settings) (s : BackupState ι sha256) :
    BackupLabel ι sha256 → Option (BackupState ι sha256)
  | .capture label =>
    if settings.evidenceRepositoryConfigured then
      (EvidenceCapture.step s.captures label).map fun captures => { s with captures := captures }
    else none
  | .dump =>
    match s.backup with
    | .idle =>
      let database := s.captures.rows.committed
      if settings.evidenceRepositoryConfigured then some { s with backup := .listing database [] }
      else some { s with backup := .downloading database [] [] }
    | _ => none
  | .page size =>
    match s.backup with
    | .listing database listed =>
      let keys := evidenceKeys s.captures.objects
      let listed' := PagedListing.page keys listed size
      if PagedListing.IsLast keys listed size then
        some { s with backup := .downloading database listed' [] }
      else some { s with backup := .listing database listed' }
    | _ => none
  | .download =>
    match s.backup with
    | .downloading database (objectKey :: objectKeys) evidenceObjects =>
      match s.captures.objects[objectKey]? with
      | some content =>
        let evidenceObjects := evidenceObjects ++ [.of sha256 objectKey content]
        some { s with backup := .downloading database objectKeys evidenceObjects }
      | none => some { s with backup := .failed }
    | _ => none
  | .write createdAt =>
    match s.backup with
    | .downloading database [] evidenceObjects =>
      let manifest := BackupManifest.ofObjects settings createdAt evidenceObjects
      some { s with backup := .finished ⟨database, manifest⟩ }
    | _ => none
  | .fail =>
    match s.backup with
    | .finished _ => none
    | _ => some { s with backup := .failed }

end MiniGrc.BackupRestore
