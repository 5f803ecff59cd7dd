import MiniGrc.App.EvidenceBackup
import MiniGrc.Spec.EvidenceCapture

/-!
# Backups while evidence is captured

A version that is dumped has its object before the dump and keeps it, since no step of a
capture touches the object of a committed version. So the listing, which begins after the
dump, does not skip its key, and the download reads what was captured.

## Key results

- `BackupInv.step`: every step keeps the invariant
- `backup_consistent`: the manifest of a backup has the objects of its database
-/

namespace MiniGrc.BackupRestore

open EvidenceRepository EvidenceCapture

variable {ι : Type} {sha256 : Bytes → String} {settings : Settings}
  {s u : BackupState ι sha256} {l : BackupLabel ι sha256}

/-- The record of a version's object. -/
def recordOf (r : EvidenceArtifactVersion) : EvidenceObjectRecord :=
  ⟨r.objectKey, r.byteSize, r.sha256⟩

/-- What a listing finds is in order. -/
theorem evidenceKeys_sorted (objects : ObjectStore) :
    (evidenceKeys objects).Pairwise fun x y => compare x y = .lt :=
  Std.ExtTreeMap.ordered_keys.filter _

/-- The object of a version is found. -/
theorem mem_evidenceKeys {objects : ObjectStore} {k : Id} {r : EvidenceArtifactVersion}
    (h : Stored sha256 objects k r) : r.objectKey ∈ evidenceKeys objects := by
  obtain ⟨⟨content, hcontent, -⟩, extension, hkey⟩ := h
  refine List.mem_filter.2 ⟨?_, ?_⟩
  · rw [Std.ExtTreeMap.mem_keys, Std.ExtTreeMap.mem_iff_isSome_getElem?, hcontent]
    rfl
  · obtain ⟨rest, hrest⟩ := objectKeyFor_toList r.artifactId k extension
    rw [hkey, hrest, List.isPrefixOf_iff_prefix]
    exact List.prefix_append ..

/-! ## The invariant -/

/-- The dumped versions are committed, and what the backup still has to do covers their
    objects. -/
def Covers (database committed : Table EvidenceArtifactVersion)
    (done : EvidenceArtifactVersion → Prop) : Prop :=
  ∀ (k : Nat) r, database[k]? = some r → committed[k]? = some r ∧ done r

/-- What holds of a backup, by where it stands. -/
def BackupAt (committed : Table EvidenceArtifactVersion) : BackupPc → Prop
  | .idle | .failed => True
  | .listing database listed =>
    Covers database committed fun r => PagedListing.Reached listed r.objectKey
  | .downloading database objectKeys evidenceObjects =>
    Covers database committed fun r => r.objectKey ∈ objectKeys ∨ recordOf r ∈ evidenceObjects
  | .finished backup =>
    Covers backup.database committed fun r => recordOf r ∈ backup.manifest.evidenceObjects

/-- What holds in every state of a run. -/
structure BackupInv (settings : Settings) (s : BackupState ι sha256) : Prop where
  captures : s.captures.Inv
  unconfigured : settings.evidenceRepositoryConfigured = false →
    ∀ k : Nat, s.captures.rows.committed[k]? = none
  backup : BackupAt s.captures.rows.committed s.backup

theorem Covers.mono {database committed committed' : Table EvidenceArtifactVersion}
    {done done' : EvidenceArtifactVersion → Prop} (h : Covers database committed done)
    (hcommitted : ∀ (k : Nat) r, committed[k]? = some r → committed'[k]? = some r)
    (hdone : ∀ (k : Nat) r, committed[k]? = some r → done r → done' r) :
    Covers database committed' done' := fun k r hr =>
  ⟨hcommitted k r (h k r hr).1, hdone k r (h k r hr).1 (h k r hr).2⟩

theorem BackupAt.mono {committed committed' : Table EvidenceArtifactVersion} {pc : BackupPc}
    (h : BackupAt committed pc)
    (hcommitted : ∀ (k : Nat) r, committed[k]? = some r → committed'[k]? = some r) :
    BackupAt committed' pc := by
  cases pc with
  | idle | failed => trivial
  | listing | downloading | finished => exact Covers.mono h hcommitted fun _ _ _ hdone => hdone

theorem backupInv_initial (objects : ObjectStore) :
    BackupInv settings (.initial objects : BackupState ι sha256) where
  captures := State.inv_initial objects
  unconfigured _ k := by simp [BackupState.initial, State.initial, OpenRows.closed]
  backup := trivial

namespace BackupInv

/-- The database is dumped before the first object is listed. -/
theorem dump (h : BackupInv settings s) [DecidableEq ι] [Fintype ι]
    (hstep : backupStep settings s .dump = some u) : BackupInv settings u := by
  simp only [backupStep] at hstep
  split at hstep
  · split at hstep
    · cases hstep
      exact ⟨h.captures, h.unconfigured, fun k r hr => ⟨hr, PagedListing.reached_nil⟩⟩
    · next hconfigured =>
      cases hstep
      refine ⟨h.captures, h.unconfigured, fun k r hr => ?_⟩
      cases (h.unconfigured (Bool.eq_false_iff.2 hconfigured) k).symm.trans hr
  · cases hstep

/-- A page skips no object of a dumped version. -/
theorem page (h : BackupInv settings s) [DecidableEq ι] [Fintype ι] {size : Nat}
    (hstep : backupStep settings s (.page size) = some u) : BackupInv settings u := by
  simp only [backupStep] at hstep
  split at hstep
  · next database listed hpc =>
    have hcovers : BackupAt s.captures.rows.committed (.listing database listed) := hpc ▸ h.backup
    have hmem : ∀ (k : Nat) r, s.captures.rows.committed[k]? = some r →
        r.objectKey ∈ evidenceKeys s.captures.objects := fun k r hr =>
      mem_evidenceKeys (h.captures.stored k r (.inl hr))
    split at hstep
    · next hlast =>
      cases hstep
      exact ⟨h.captures, h.unconfigured, Covers.mono hcovers (fun _ _ hr => hr)
        fun k r hr hreached => .inl (PagedListing.mem_page_of_isLast hreached (hmem k r hr) hlast)⟩
    · cases hstep
      exact ⟨h.captures, h.unconfigured, Covers.mono hcovers (fun _ _ hr => hr)
        fun k r hr hreached => hreached.page (evidenceKeys_sorted _) (hmem k r hr)⟩
  · cases hstep

/-- The object of a dumped version is downloaded as it was captured. -/
theorem download (h : BackupInv settings s) [DecidableEq ι] [Fintype ι]
    (hstep : backupStep settings s .download = some u) : BackupInv settings u := by
  simp only [backupStep] at hstep
  split at hstep
  · next database objectKey objectKeys evidenceObjects hpc =>
    have hcovers : BackupAt s.captures.rows.committed
        (.downloading database (objectKey :: objectKeys) evidenceObjects) := hpc ▸ h.backup
    split at hstep
    · next content hcontent =>
      cases hstep
      refine ⟨h.captures, h.unconfigured, Covers.mono hcovers (fun _ _ hr => hr)
        fun k r hr hdone => ?_⟩
      obtain hkey | hrecord := hdone
      · obtain heq | hkey := List.mem_cons.1 hkey
        · obtain ⟨⟨content', hcontent', hsha, hsize⟩, -⟩ := h.captures.stored k r (.inl hr)
          rw [heq, hcontent] at hcontent'
          cases hcontent'
          refine .inr (List.mem_append_right _ (List.mem_singleton.2 ?_))
          rw [recordOf, EvidenceObjectRecord.of, hsha, hsize, heq]
        · exact .inl hkey
      · exact .inr (List.mem_append_left _ hrecord)
    · cases hstep
      exact ⟨h.captures, h.unconfigured, trivial⟩
  · cases hstep

theorem write (h : BackupInv settings s) [DecidableEq ι] [Fintype ι] {createdAt : Time}
    (hstep : backupStep settings s (.write createdAt) = some u) : BackupInv settings u := by
  simp only [backupStep] at hstep
  split at hstep
  · next database evidenceObjects hpc =>
    have hcovers : BackupAt s.captures.rows.committed (.downloading database [] evidenceObjects) :=
      hpc ▸ h.backup
    cases hstep
    refine ⟨h.captures, h.unconfigured, Covers.mono hcovers (fun _ _ hr => hr)
      fun k r hr hdone => ?_⟩
    exact hdone.resolve_left fun hkey => by cases hkey
  · cases hstep

theorem step (h : BackupInv settings s) [DecidableEq ι] [Fintype ι]
    (hstep : backupStep settings s l = some u) : BackupInv settings u := by
  cases l with
  | capture label =>
    simp only [backupStep] at hstep
    split at hstep
    · next hconfigured =>
      obtain ⟨captures, hcapture, rfl⟩ := Option.map_eq_some_iff.1 hstep
      refine ⟨h.captures.step hcapture, fun hfalse => ?_,
        h.backup.mono fun k r hr => h.captures.committed_step hcapture hr⟩
      cases hconfigured.symm.trans hfalse
    · cases hstep
  | dump => exact h.dump hstep
  | page size => exact h.page hstep
  | download => exact h.download hstep
  | write createdAt => exact h.write hstep
  | fail =>
    simp only [backupStep] at hstep
    split at hstep
    · cases hstep
    · cases hstep
      exact ⟨h.captures, h.unconfigured, trivial⟩

end BackupInv

/-! ## The result -/

/-- Every version in the database of a backup has its object in the manifest. -/
theorem backup_consistent [DecidableEq ι] [Fintype ι] {objects : ObjectStore} {backup : Backup}
    (h : Run (backupStep settings) (fun _ _ => True) (.initial objects) s)
    (hbackup : s.backup = .finished backup) :
    ∀ (k : Nat) r, backup.database[k]? = some r →
      ⟨r.objectKey, r.byteSize, r.sha256⟩ ∈ backup.manifest.evidenceObjects := by
  have hinv : BackupInv settings s :=
    h.invariant (backupInv_initial objects) fun _ _ _ hinv _ hstep => hinv.step hstep
  have hfinished : BackupAt s.captures.rows.committed (.finished backup) := hbackup ▸ hinv.backup
  exact fun k r hr => (hfinished k r hr).2

/-! ### A backup during two captures -/

/-- Everything is set but the database's URL. -/
def sampleSettings : Settings := ⟨fun field => if field = "database_url" then "" else "set"⟩

/-- The backup begins when one of two captures is committed and the other has uploaded its
    object, which it takes back between the pages of the listing. -/
def sampleBackup : List (BackupLabel Bool sampleSha256) :=
  (sampleRace.take 8).map .capture ++ [.dump, .page 1] ++ (sampleRace.drop 8).map .capture ++
    [.page 1, .download, .write 102]

theorem backup_consistent_race : ∃ backup : Backup,
    (backup.database.toList.map fun x => recordOf x.2) =
      [⟨"evidence/1/7/content.txt", 2, sampleSha256 [104, 105]⟩] ∧
    ∀ (k : Nat) r, backup.database[k]? = some r →
      ⟨r.objectKey, r.byteSize, r.sha256⟩ ∈ backup.manifest.evidenceObjects := by
  have hrun : ∃ s backup, Run.exec (backupStep sampleSettings) (.initial ∅) sampleBackup = some s ∧
      s.backup = .finished backup ∧ (backup.database.toList.map fun x => recordOf x.2) =
        [⟨"evidence/1/7/content.txt", 2, sampleSha256 [104, 105]⟩] := ⟨_, _, rfl, rfl, rfl⟩
  obtain ⟨s, backup, hs, hbackup, hrecords⟩ := hrun
  exact ⟨backup, hrecords, backup_consistent (Run.of_exec_true _ hs) hbackup⟩

end MiniGrc.BackupRestore
