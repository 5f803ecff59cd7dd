import MiniGrc.App.BackupManifest
import MiniGrc.App.EvidenceCapture

/-!
# Restoring a backup

`restore_backup` of `app/backup.py`. A restore goes through the database and then through
the evidence objects, in the order of the manifest, and stops where something fails.

`build_engine` puts a SQLite database into WAL mode: what SQLite reads is the main file
overlaid by the transactions in the log beside it. `pg_restore`, failures of the disk and
failures of the object store come from the environment.
-/

namespace MiniGrc.BackupRestore

open EvidenceCapture (ObjectStore)

/-! ## SQLite files -/

/-- A committed transaction in a write-ahead log: the pages that it writes, by number, and the
    size of the database after it, in pages. -/
structure LoggedCommit where
  pages : List (Nat × Bytes)
  size : Nat

/-- The files of a SQLite database. -/
structure SqliteFiles where
  main : Option Bytes
  pageSize : Nat
  /-- the transactions in the write-ahead log; none also where there is no log -/
  log : List LoggedCommit

/-- A database with the pages of a transaction. -/
def LoggedCommit.overlay (pageSize : Nat) (content : Bytes) (commit : LoggedCommit) : Bytes :=
  (List.range (commit.size * pageSize)).map fun offset =>
    match commit.pages.reverse.find? fun page => page.1 = offset / pageSize with
    | some page => page.2.getD (offset % pageSize) 0
    | none => content.getD offset 0

/-- The database as SQLite reads it. -/
def SqliteFiles.read (files : SqliteFiles) : Option Bytes :=
  files.main.map fun content => files.log.foldl (LoggedCommit.overlay files.pageSize) content

/-! ## The target and the backup -/

variable {π : Type}

/-- What a restore writes: the files at `settings.resolved_database_path`, the PostgreSQL
    database at `settings.database_url` and the bucket. -/
structure Target (π : Type) where
  sqlite : SqliteFiles
  postgres : π
  objects : ObjectStore

/-- The manifest file of a backup directory. -/
inductive ManifestFile
  | missing
  /-- `BackupManifest.from_json` raises -/
  | invalid
  | parsed (manifest : BackupManifest)

/-- A backup directory: its name, its manifest and its other files, by their paths in it. -/
structure BackupDirectory where
  name : String
  manifest : ManifestFile
  file : String → Option Bytes

/-- What can fail around a restore. -/
structure Environment (π : Type) where
  /-- `pg_restore` of a dump, with the error that it ends with; `none` if it is not installed -/
  pgRestore : Option (Option Bytes → π → π × Option String)
  /-- the disk fails after so many bytes of a copy -/
  copyFails : Option Nat
  /-- the error with which an upload under the key fails -/
  uploadFails : String → Option String

/-- The exceptions of a restore. -/
inductive RestoreError
  | backupError (message : String)
  /-- the exception of `BackupManifest.from_json` -/
  | invalidManifest
  | fileNotFoundError (path : String)
  | osError
  | calledProcessError (text : String)
  | objectStorageError (message : String)
  deriving DecidableEq, Repr

/-- How a restore ends, with the target that it leaves. -/
inductive Restore (π : Type)
  | returned (target : Target π) (manifest : BackupManifest)
  | raised (target : Target π) (error : RestoreError)

variable (env : Environment π) (settings : Settings) (backup : BackupDirectory)
  (target : Target π)

/-- `_restore_sqlite`: `shutil.copy2` opens its source before it empties the target, and a
    log beside the target stays. -/
def restoreSqlite (manifest : BackupManifest) : Target π × Option RestoreError :=
  match backup.file manifest.dbBackupFilename with
  | none => (target, some (.fileNotFoundError manifest.dbBackupFilename))
  | some snapshot =>
    match env.copyFails with
    | some written =>
      ({ target with sqlite := { target.sqlite with main := some (snapshot.take written) } },
        some .osError)
    | none => ({ target with sqlite := { target.sqlite with main := some snapshot } }, none)

/-- `_restore_postgres`. -/
def restorePostgres (manifest : BackupManifest) : Target π × Option RestoreError :=
  match env.pgRestore with
  | none =>
    (target, some (.backupError
      ("pg_restore is not installed/available on PATH — cannot restore PostgreSQL on this " ++
        "host. See docs/deployment/backup-restore.md for the manual procedure.")))
  | some pgRestore =>
    let (postgres, failed) := pgRestore (backup.file manifest.dbBackupFilename) target.postgres
    ({ target with postgres := postgres }, failed.map .calledProcessError)

/-- The database of the backend of the manifest. -/
def restoreDatabase (manifest : BackupManifest) : Target π × Option RestoreError :=
  if manifest.backend = "postgresql" then restorePostgres env backup target manifest
  else restoreSqlite env backup target manifest

/-- The uploads, in order. -/
def uploadObjects (target : Target π) :
    List EvidenceObjectRecord → Target π × Option RestoreError
  | [] => (target, none)
  | record :: records =>
    match backup.file record.objectKey with
    | none => (target, some (.fileNotFoundError record.objectKey))
    | some content =>
      match env.uploadFails record.objectKey with
      | some text => (target, some (.objectStorageError s!"Evidence upload failed: {text}"))
      | none =>
        uploadObjects { target with objects := target.objects.insert record.objectKey content }
          records

/-- What comes after the database. -/
def restoreObjects (manifest : BackupManifest) : Target π × Option RestoreError :=
  if manifest.evidenceObjects = [] then (target, none)
  else if settings.evidenceRepositoryConfigured = false then
    (target, some (.backupError
      ("Backup contains evidence objects but the evidence repository is not configured " ++
        "on this instance — set GRC_S3_* before restoring.")))
  else uploadObjects env backup target manifest.evidenceObjects

/-- `restore_backup`. -/
def restoreBackup : Restore π :=
  match backup.manifest with
  | .missing =>
    .raised target (.backupError
      ("No manifest.json found in " ++ pyRepr backup.name ++ " — not a backup directory."))
  | .invalid => .raised target .invalidManifest
  | .parsed manifest =>
    match restoreDatabase env backup target manifest with
    | (target, some error) => .raised target error
    | (target, none) =>
      match restoreObjects env settings backup target manifest with
      | (target, some error) => .raised target error
      | (target, none) => .returned target manifest

end MiniGrc.BackupRestore
