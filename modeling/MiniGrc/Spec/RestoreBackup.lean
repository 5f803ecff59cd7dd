import MiniGrc.App.RestoreBackup

/-!
# How a restore ends

`restore_backup` replaces the database first and then uploads the objects one by one. What a
restore that fails has done so far stays, and an object is stored with the bytes of its file
in the backup, whether or not these are what the manifest recorded.

The theorem is about a target without a leftover log, and a manifest without objects or an
evidence repository that is configured.

## Key results

- `uploadObjects_ends`: how far the uploads get
- `restoreBackup_ends`: the stages at which a restore ends
-/

namespace MiniGrc.BackupRestore

open EvidenceCapture (ObjectStore)

variable {π : Type} {env : Environment π} {settings : Settings} {backup : BackupDirectory}
  {target target' : Target π} {manifest : BackupManifest}

/-! ## Stages -/

/-- The records could be uploaded, the objects under their keys have the bytes of their files in
    the backup, and the others are as they were. -/
structure Uploaded (env : Environment π) (backup : BackupDirectory)
    (objects objects' : ObjectStore) (records : List EvidenceObjectRecord) : Prop where
  accepted : ∀ record ∈ records, env.uploadFails record.objectKey = none
  stored : ∀ record ∈ records, ∃ content, backup.file record.objectKey = some content ∧
    objects'[record.objectKey]? = some content
  others : ∀ objectKey, (∀ record ∈ records, record.objectKey ≠ objectKey) →
    objects'[objectKey]? = objects[objectKey]?

/-- The database of the backend of the manifest is that of the backup, and the other is as it
    was. -/
inductive DatabaseReplaced (env : Environment π) (backup : BackupDirectory)
    (manifest : BackupManifest) (target target' : Target π) : Prop
  | sqlite {snapshot : Bytes} (hbackend : manifest.backend ≠ "postgresql")
      (hfile : backup.file manifest.dbBackupFilename = some snapshot)
      (hread : target'.sqlite.read = some snapshot) (hpostgres : target'.postgres = target.postgres)
  | postgres {pgRestore : Option Bytes → π → π × Option String}
      (hbackend : manifest.backend = "postgresql") (hinstalled : env.pgRestore = some pgRestore)
      (hpostgres : pgRestore (backup.file manifest.dbBackupFilename) target.postgres =
        (target'.postgres, none))
      (hsqlite : target'.sqlite = target.sqlite)

/-- The replacement of the database of the backend of the manifest fails half way: the copy of
    the snapshot stops when the disk fails, or `pg_restore` ends with an error. -/
inductive DatabaseBroken (env : Environment π) (backup : BackupDirectory)
    (manifest : BackupManifest) (target : Target π) : Target π → RestoreError → Prop
  /-- the database file is a prefix of the snapshot -/
  | sqlite {snapshot : Bytes} {written : Nat} (hbackend : manifest.backend ≠ "postgresql")
      (hfile : backup.file manifest.dbBackupFilename = some snapshot)
      (hfails : env.copyFails = some written) :
      DatabaseBroken env backup manifest target
        { target with sqlite := { target.sqlite with main := some (snapshot.take written) } }
        .osError
  /-- the PostgreSQL database is what `pg_restore` left -/
  | postgres {pgRestore : Option Bytes → π → π × Option String} {postgres' : π} {text : String}
      (hbackend : manifest.backend = "postgresql") (hinstalled : env.pgRestore = some pgRestore)
      (hrun : pgRestore (backup.file manifest.dbBackupFilename) target.postgres =
        (postgres', some text)) :
      DatabaseBroken env backup manifest target { target with postgres := postgres' }
        (.calledProcessError text)

/-- The ways in which a restore ends. -/
inductive Ends (env : Environment π) (backup : BackupDirectory) (target : Target π) :
    Restore π → Prop
  /-- before it touches anything -/
  | refused (error : RestoreError) : Ends env backup target (.raised target error)
  /-- within the database of the manifest's backend, because the disk or `pg_restore` fails -/
  | databaseFailed {target' : Target π} {manifest : BackupManifest} {error : RestoreError}
      (hmanifest : backup.manifest = .parsed manifest)
      (hbroken : DatabaseBroken env backup manifest target target' error) :
      Ends env backup target (.raised target' error)
  /-- at an object that cannot be uploaded, after the database and the objects before it -/
  | objectFailed {target' : Target π} {manifest : BackupManifest}
      {done rest : List EvidenceObjectRecord} {record : EvidenceObjectRecord} (error : RestoreError)
      (hmanifest : backup.manifest = .parsed manifest)
      (hsplit : manifest.evidenceObjects = done ++ record :: rest)
      (hfails : backup.file record.objectKey = none ∨ env.uploadFails record.objectKey ≠ none)
      (hdatabase : DatabaseReplaced env backup manifest target target')
      (hobjects : Uploaded env backup target.objects target'.objects done) :
      Ends env backup target (.raised target' error)
  /-- after the last object -/
  | completed {target' : Target π} {manifest : BackupManifest}
      (hmanifest : backup.manifest = .parsed manifest)
      (hdatabase : DatabaseReplaced env backup manifest target target')
      (hobjects : Uploaded env backup target.objects target'.objects manifest.evidenceObjects) :
      Ends env backup target (.returned target' manifest)

/-! ## The objects -/

theorem Uploaded.nil {objects : ObjectStore} : Uploaded env backup objects objects [] :=
  ⟨fun _ h => (by cases h), fun _ h => (by cases h), fun _ _ => rfl⟩

/-- One more upload, before the others. -/
theorem Uploaded.cons {objects objects' : ObjectStore} {record : EvidenceObjectRecord}
    {records : List EvidenceObjectRecord} {content : Bytes}
    (hfile : backup.file record.objectKey = some content)
    (hupload : env.uploadFails record.objectKey = none)
    (h : Uploaded env backup (objects.insert record.objectKey content) objects' records) :
    Uploaded env backup objects objects' (record :: records) where
  accepted := List.forall_mem_cons.2 ⟨hupload, h.accepted⟩
  stored := by
    intro r hr
    rcases List.mem_cons.1 hr with rfl | hr
    · refine ⟨content, hfile, ?_⟩
      -- a later record with the same key uploads the same file
      by_cases hkey : ∃ r' ∈ records, r'.objectKey = r.objectKey
      · obtain ⟨r', hr', heq⟩ := hkey
        obtain ⟨content', hfile', hstored⟩ := h.stored r' hr'
        rw [heq, hfile] at hfile'
        rw [← heq, hstored, hfile']
      · have hothers := h.others r.objectKey fun r' hr' heq => hkey ⟨r', hr', heq⟩
        rw [hothers, Std.ExtTreeMap.getElem?_insert_self]
    · exact h.stored r hr
  others := by
    intro objectKey hnot
    have hne : record.objectKey ≠ objectKey := hnot record List.mem_cons_self
    rw [h.others objectKey fun r hr => hnot r (List.mem_cons_of_mem _ hr),
      Std.ExtTreeMap.getElem?_insert, if_neg (by simpa using hne)]

/-- The uploads go through all records, or up to one that cannot be uploaded. They do not
    touch the databases. -/
theorem uploadObjects_ends {records : List EvidenceObjectRecord} {failed : Option RestoreError}
    (h : uploadObjects env backup target records = (target', failed)) :
    (target'.sqlite = target.sqlite ∧ target'.postgres = target.postgres) ∧
      (failed = none → Uploaded env backup target.objects target'.objects records) ∧
      (failed ≠ none → ∃ done record rest, records = done ++ record :: rest ∧
        (backup.file record.objectKey = none ∨ env.uploadFails record.objectKey ≠ none) ∧
        Uploaded env backup target.objects target'.objects done) := by
  induction records generalizing target with
  | nil =>
    obtain ⟨rfl, rfl⟩ := Prod.mk.inj h
    exact ⟨⟨rfl, rfl⟩, fun _ => .nil, fun hsome => absurd rfl hsome⟩
  | cons record records ih =>
    unfold uploadObjects at h
    split at h
    · next hfile =>
      obtain ⟨rfl, rfl⟩ := Prod.mk.inj h
      exact ⟨⟨rfl, rfl⟩, fun hnone => (by cases hnone), fun _ =>
        ⟨[], record, records, rfl, .inl hfile, .nil⟩⟩
    next content hfile =>
    split at h
    · next hupload =>
      obtain ⟨rfl, rfl⟩ := Prod.mk.inj h
      exact ⟨⟨rfl, rfl⟩, fun hnone => (by cases hnone), fun _ =>
        ⟨[], record, records, rfl, .inr (by simp [hupload]), .nil⟩⟩
    · next hupload =>
      obtain ⟨hdatabases, hnone, hsome⟩ := ih h
      refine ⟨hdatabases, fun hf => .cons hfile hupload (hnone hf), fun hf => ?_⟩
      obtain ⟨done, r, rest, rfl, hfails, hdone⟩ := hsome hf
      exact ⟨record :: done, r, rest, rfl, hfails, .cons hfile hupload hdone⟩

/-! ## The database -/

/-- Without a log, SQLite reads the main file. -/
theorem SqliteFiles.read_of_log {files : SqliteFiles} (h : files.log = []) :
    files.read = files.main := by
  rw [SqliteFiles.read, h]
  cases files.main <;> rfl

/-- A SQLite backup: the file is missing and nothing happens, or the copy stops, or the file
    is replaced. -/
theorem restoreSqlite_ends {failed : Option RestoreError} (hlog : target.sqlite.log = [])
    (hbackend : manifest.backend ≠ "postgresql")
    (h : restoreSqlite env backup target manifest = (target', failed)) :
    (failed = none ∧ target'.objects = target.objects ∧
        DatabaseReplaced env backup manifest target target') ∨
      ∃ error, failed = some error ∧
        (target' = target ∨ DatabaseBroken env backup manifest target target' error) := by
  unfold restoreSqlite at h
  cases hfile : backup.file manifest.dbBackupFilename with
  | none =>
    rw [hfile] at h
    obtain ⟨rfl, rfl⟩ := Prod.mk.inj h
    exact .inr ⟨_, rfl, .inl rfl⟩
  | some snapshot =>
    rw [hfile] at h
    cases hcopy : env.copyFails with
    | some written =>
      rw [hcopy] at h
      obtain ⟨rfl, rfl⟩ := Prod.mk.inj h
      exact .inr ⟨_, rfl, .inr (.sqlite hbackend hfile hcopy)⟩
    | none =>
      rw [hcopy] at h
      obtain ⟨rfl, rfl⟩ := Prod.mk.inj h
      -- no log is overlaid on the copied file
      have hread : SqliteFiles.read { target.sqlite with main := some snapshot } = some snapshot :=
        SqliteFiles.read_of_log hlog
      exact .inl ⟨rfl, rfl, .sqlite hbackend hfile hread rfl⟩

/-- A PostgreSQL backup: `pg_restore` is not installed and nothing happens, or it ends with an
    error, or it goes through. -/
theorem restorePostgres_ends {failed : Option RestoreError}
    (hbackend : manifest.backend = "postgresql")
    (h : restorePostgres env backup target manifest = (target', failed)) :
    (failed = none ∧ target'.objects = target.objects ∧
        DatabaseReplaced env backup manifest target target') ∨
      ∃ error, failed = some error ∧
        (target' = target ∨ DatabaseBroken env backup manifest target target' error) := by
  unfold restorePostgres at h
  cases hinstalled : env.pgRestore with
  | none =>
    rw [hinstalled] at h
    obtain ⟨rfl, rfl⟩ := Prod.mk.inj h
    exact .inr ⟨_, rfl, .inl rfl⟩
  | some pgRestore =>
    rw [hinstalled] at h
    cases hrun : pgRestore (backup.file manifest.dbBackupFilename) target.postgres with
    | mk postgres' ended =>
    simp only [hrun] at h
    obtain ⟨rfl, rfl⟩ := Prod.mk.inj h
    cases ended with
    | none => exact .inl ⟨rfl, rfl, .postgres hbackend hinstalled hrun rfl⟩
    | some text => exact .inr ⟨_, rfl, .inr (.postgres hbackend hinstalled hrun)⟩

/-- The database is replaced, or the target is untouched, or the replacement fails half way. -/
theorem restoreDatabase_ends {failed : Option RestoreError} (hlog : target.sqlite.log = [])
    (h : restoreDatabase env backup target manifest = (target', failed)) :
    (failed = none ∧ target'.objects = target.objects ∧
        DatabaseReplaced env backup manifest target target') ∨
      ∃ error, failed = some error ∧
        (target' = target ∨ DatabaseBroken env backup manifest target target' error) := by
  unfold restoreDatabase at h
  split_ifs at h with hbackend
  · exact restorePostgres_ends hbackend h
  · exact restoreSqlite_ends hlog hbackend h

/-- What has been done to the database stays while objects are uploaded. -/
theorem DatabaseReplaced.of_eq {target₁ : Target π}
    (h : DatabaseReplaced env backup manifest target target₁)
    (hsqlite : target'.sqlite = target₁.sqlite) (hpostgres : target'.postgres = target₁.postgres) :
    DatabaseReplaced env backup manifest target target' := by
  cases h with
  | sqlite hbackend hfile hread hkept =>
    exact .sqlite hbackend hfile (hsqlite ▸ hread) (hpostgres.trans hkept)
  | postgres hbackend hinstalled hrun hkept =>
    exact .postgres hbackend hinstalled (hpostgres ▸ hrun) (hsqlite.trans hkept)

/-! ## The restore -/

/-- A restore ends in one of these ways if no log is left over beside the database file and the
    evidence repository is configured or not needed. -/
theorem restoreBackup_ends (hlog : target.sqlite.log = [])
    (hconfigured : ∀ manifest, backup.manifest = .parsed manifest →
      manifest.evidenceObjects ≠ [] → settings.evidenceRepositoryConfigured = true) :
    Ends env backup target (restoreBackup env settings backup target) := by
  unfold restoreBackup
  cases hmanifest : backup.manifest with
  | missing => exact .refused _
  | invalid => exact .refused _
  | parsed manifest =>
    simp only
    cases hdb : restoreDatabase env backup target manifest with
    | mk target₁ failed =>
    rcases restoreDatabase_ends hlog hdb with ⟨rfl, hobjects₁, hdatabase⟩ | ⟨error, rfl, hends⟩
    case inr =>
      rcases hends with rfl | hbroken
      · exact .refused error
      · exact .databaseFailed hmanifest hbroken
    simp only [restoreObjects]
    split_ifs with hempty hnot
    · refine .completed hmanifest hdatabase ?_
      rw [hempty, hobjects₁]
      exact .nil
    · exact absurd (hconfigured manifest hmanifest hempty) (by simp [hnot])
    · cases hup : uploadObjects env backup target₁ manifest.evidenceObjects with
      | mk target₂ failed =>
      obtain ⟨⟨hsqlite, hpostgres⟩, hall, hpart⟩ := uploadObjects_ends hup
      rw [hobjects₁] at hall hpart
      have hdatabase := hdatabase.of_eq hsqlite hpostgres
      cases failed with
      | none => exact .completed hmanifest hdatabase (hall rfl)
      | some error =>
        obtain ⟨done, record, rest, hsplit, hfails, hdone⟩ := hpart (by simp)
        exact .objectFailed error hmanifest hsplit hfails hdatabase hdone

/-! ## All or nothing -/

/-- A restore into SQLite raises and leaves the target as it was, or leaves the database of the
    backup and every object as the manifest recorded it. -/
def AllOrNothing (hash : Bytes → String) (env : Environment π) (settings : Settings)
    (backup : BackupDirectory) (target : Target π) : Prop :=
  match restoreBackup env settings backup target with
  | .raised target' _ =>
    target'.sqlite.read = target.sqlite.read ∧ target'.objects = target.objects
  | .returned target' manifest =>
    (∃ snapshot, backup.file manifest.dbBackupFilename = some snapshot ∧
      target'.sqlite.read = some snapshot) ∧
    ∀ record ∈ manifest.evidenceObjects, ∃ content,
      target'.objects[record.objectKey]? = some content ∧ hash content = record.sha256 ∧
        content.length = record.byteSize

/-- Two log files, and what is left of one of them: the last byte is missing. -/
def sampleHash (content : Bytes) : String :=
  if content = [0x6C, 0x6F, 0x67, 0x0A] then
    "9b75290f6a6359a2a3471022cbba4b724e45105b313ae8f6c103a2f79e82a857"
  else if content = [0x6C, 0x6F, 0x67] then
    "836ff184e7b41b1e13cb5fd89fa1de98dbbab99e9d2918913ff43b86a5c7c213"
  else ""

/-- Settings with an evidence repository. -/
def storeSettings : Settings :=
  ⟨fun field => if field ∈ ["s3_endpoint_url", "s3_bucket", "s3_access_key_id",
    "s3_secret_access_key"] then "set" else ""⟩

/-- A manifest with objects of the same content. -/
def sampleManifest (objectKeys : List String) : BackupManifest :=
  .ofObjects storeSettings 0 (objectKeys.map fun objectKey =>
    ⟨objectKey, 4, "9b75290f6a6359a2a3471022cbba4b724e45105b313ae8f6c103a2f79e82a857"⟩)

/-- A backup directory with a short database and the given files of objects. -/
def sampleDirectory (objectKeys : List String) (object : String → Option Bytes) :
    BackupDirectory where
  name := "backup"
  manifest := .parsed (sampleManifest objectKeys)
  file path := if path = "database.sqlite3" then some [1] else object path

/-- Nothing fails around the restore. -/
def calm : Environment Unit := ⟨none, none, fun _ => none⟩

/-- A target with another database and an empty bucket. -/
def sampleTarget : Target Unit := ⟨⟨some [2], 4096, []⟩, (), ∅⟩

/-- A damaged file is restored as it is; a missing file ends the restore after the database has
    been replaced. -/
theorem allOrNothing_damaged_missing :
    ¬ AllOrNothing sampleHash calm storeSettings
        (sampleDirectory ["evidence/1/2/content.log"] fun _ => some [0x6C, 0x6F, 0x67])
        sampleTarget ∧
      ¬ AllOrNothing sampleHash calm storeSettings
        (sampleDirectory ["evidence/1/2/content.log"] fun _ => none) sampleTarget := by
  constructor
  · rintro ⟨-, hobjects⟩
    obtain ⟨content, hstored, hhash, -⟩ := hobjects _ List.mem_cons_self
    obtain rfl : [0x6C, 0x6F, 0x67] = content := by
      rw [Std.ExtTreeMap.getElem?_insert_self] at hstored
      exact Option.some.inj hstored
    exact absurd hhash (by decide)
  · rintro ⟨hread, -⟩
    exact absurd hread (by decide)

/-- `restoreBackup_ends` of an intact backup of two objects. -/
theorem restoreBackup_ends_intact :
    Ends calm (sampleDirectory ["evidence/1/2/content.log", "evidence/1/3/content.log"] fun _ =>
        some [0x6C, 0x6F, 0x67, 0x0A]) sampleTarget
      (restoreBackup calm storeSettings
        (sampleDirectory ["evidence/1/2/content.log", "evidence/1/3/content.log"] fun _ =>
          some [0x6C, 0x6F, 0x67, 0x0A]) sampleTarget) :=
  restoreBackup_ends rfl fun _ _ _ => by decide

end MiniGrc.BackupRestore
