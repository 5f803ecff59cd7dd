import MiniGrc.App.EvidenceRepository
import MiniGrc.App.StagedFiles
import MiniGrc.ForStd.OpenRows

/-!
# Captures of evidence from several sessions

`capture_evidence_version` cut into its steps on the database and on the object store, so
that the calls of any number of sessions interleave. A call, in a transaction of its own,
goes through

    idle → opened → uploading → appending → created → idle
                  ↘ found      ↘ raised ← deleting ↙

and its caller commits after it has returned and rolls back after it has raised. The
artifact's versions are loaded when the transaction opens, and both the look-up of the
content and the next number come from what was loaded. A call may fail at every step, and
a session may roll back or die at any point. The temporary file is removed in every case
and is left out after the call has read it.
-/

namespace MiniGrc.EvidenceCapture

open Events EvidenceRepository

/-! ## The object store -/

/-- The objects of the bucket, by key. -/
abbrev ObjectStore := Std.ExtTreeMap String Bytes

/-- `CapturedBytes`, with the content of its temporary file. -/
structure CapturedBytes (sha256 : Bytes → String) where
  content : Bytes
  hash : String
  byteSize : Nat
  hash_eq : hash = sha256 content
  byteSize_eq : byteSize = content.length

/-- `_capture_chunks_to_temp_file`. -/
def captureChunksToTempFile (sha256 : Bytes → String) (maxBytes : Nat) (chunks : List Bytes) :
    Except String (CapturedBytes sha256) :=
  match h : StagedFiles.writeChunks maxBytes ([], 0) chunks with
  | .error message => .error message
  | .ok (content, byteSize) =>
    .ok ⟨content, sha256 content, byteSize, rfl, by
      obtain ⟨hcontent, hsize⟩ := StagedFiles.writeChunks_ok h
      rw [hcontent, hsize, List.nil_append, Nat.zero_add]⟩

/-! ## Calls -/

variable {ι : Type} {sha256 : Bytes → String}

/-- The arguments of a call; the caller ensures that the hash and the size that it passes
    are those of the temporary file. -/
structure Call (sha256 : Bytes → String) where
  content : Bytes
  file : File
  sha256_eq : file.sha256 = sha256 content
  byteSize_eq : file.byteSize = content.length
  actor : Actor := {}
  occurredAt : Option Time := none

/-- A call for a captured temporary file. -/
def Call.ofCaptured (captured : CapturedBytes sha256) (file : File) (actor : Actor)
    (occurredAt : Option Time) : Call sha256 where
  content := captured.content
  file := { file with sha256 := captured.hash, byteSize := captured.byteSize }
  sha256_eq := captured.hash_eq
  byteSize_eq := captured.byteSize_eq
  actor := actor
  occurredAt := occurredAt

/-- The payload of the event of a call. -/
def Call.payload (call : Call sha256) (artifactId id : Id) (versionNumber : Nat) : Captured where
  artifactId := artifactId
  versionNumber := versionNumber
  objectKey := objectKeyFor artifactId id call.file.extension
  originalFilename := call.file.originalFilename
  mediaType := call.file.mediaType
  byteSize := call.file.byteSize
  sha256 := call.file.sha256
  sourceType := call.file.sourceType
  sourceConnectionId := call.file.sourceConnectionId
  sourceObjectId := call.file.sourceObjectId
  sourceRevisionId := call.file.sourceRevisionId
  sourceModifiedAt := call.file.sourceModifiedAt
  linkedEvidenceSnapshotId := call.file.linkedEvidenceSnapshotId

/-- The event of a call, the first one of its aggregate. -/
def Call.event (call : Call sha256) (artifactId id : Id) (versionNumber : Nat)
    (recordedAt : Time) : Event :=
  AppendArgs.candidate
    { aggregate := id, body := .captured (call.payload artifactId id versionNumber)
      occurredAt := call.occurredAt, actorType := call.actor.actorType
      actorId := call.actor.actorId } recordedAt 1

/-- The row that the projector adds for a call. -/
def Call.row (call : Call sha256) (artifactId id : Id) (versionNumber : Nat) (recordedAt : Time) :
    EvidenceArtifactVersion :=
  projectCaptured (call.event artifactId id versionNumber recordedAt)
    (call.payload artifactId id versionNumber)

/-! ## Sessions -/

/-- The versions of an artifact that a transaction has loaded. -/
structure Loaded where
  artifactId : Id
  versions : List EvidenceArtifactVersion

/-- Where a session stands. -/
inductive Pc (sha256 : Bytes → String)
  | idle
  /-- a transaction is open and has loaded the artifact's versions; the call is next -/
  | opened (loaded : Loaded)
  /-- the content is new, and the version's id is drawn; the upload is next -/
  | uploading (loaded : Loaded) (call : Call sha256) (id : Id)
  /-- the object is stored; the event is next -/
  | appending (loaded : Loaded) (call : Call sha256) (id : Id)
  /-- the append has raised; the compensating delete is next -/
  | deleting (loaded : Loaded) (call : Call sha256) (id : Id)
  /-- `(existing, False)` is returned; the caller's commit is next -/
  | found (existing : EvidenceArtifactVersion)
  /-- `(new_version, True)` is returned; the caller's commit is next -/
  | created (loaded : Loaded) (call : Call sha256) (id : Id)
  /-- the call has raised; the caller's rollback is next -/
  | raised

/-- How an upload ends. -/
inductive Upload
  | stored
  /-- it raises, and nothing is stored -/
  | failed
  /-- the object is stored, but the call does not get as far as the append -/
  | lost

/-- The database, the bucket and the sessions. -/
structure State (ι : Type) (sha256 : Bytes → String) where
  rows : OpenRows ι EvidenceArtifactVersion
  objects : ObjectStore
  /-- the results of `new_id()` so far -/
  drawn : List Id
  pc : ι → Pc sha256

/-- The steps of the system. -/
inductive Label (ι : Type) (sha256 : Bytes → String)
  /-- session `i` opens a transaction and loads an artifact's versions -/
  | load (i : ι) (artifactId : Id)
  /-- session `i` calls `capture_evidence_version`; `new_id()` gives `id` if it is called -/
  | call (i : ι) (call : Call sha256) (id : Id)
  /-- session `i`'s upload ends -/
  | upload (i : ι) (outcome : Upload)
  /-- session `i` appends its event and adds its row -/
  | append (i : ι) (recordedAt : Time)
  /-- session `i`'s append raises for a reason outside the code -/
  | appendFails (i : ι)
  /-- session `i` tries to delete the object that it has uploaded -/
  | delete (i : ι) (deleted : Bool)
  /-- session `i`'s caller commits -/
  | commit (i : ι)
  /-- session `i` rolls back, or dies, at any point -/
  | rollback (i : ι)

namespace State

/-- No transaction is open, and there is no version yet. -/
def initial (objects : ObjectStore) : State ι sha256 where
  rows := .closed ∅
  objects := objects
  drawn := []
  pc _ := .idle

variable [DecidableEq ι] (s : State ι sha256) (i : ι)

/-- Session `i` goes on. -/
def goto (pc : Pc sha256) : State ι sha256 := { s with pc := Function.update s.pc i pc }

/-- Store an object. -/
def put (objectKey : String) (content : Bytes) : State ι sha256 :=
  { s with objects := s.objects.insert objectKey content }

/-- Delete an object. -/
def remove (objectKey : String) : State ι sha256 :=
  { s with objects := s.objects.erase objectKey }

/-- Commit session `i`'s transaction. -/
def commit : State ι sha256 :=
  { s with rows := s.rows.commit i, pc := Function.update s.pc i .idle }

/-- Roll session `i`'s transaction back; whatever it was doing is given up. -/
def rollback : State ι sha256 :=
  { s with rows := s.rows.rollback i, pc := Function.update s.pc i .idle }

/-- The call has seen all versions, and none has its content. -/
def draw (loaded : Loaded) (call : Call sha256) (id : Id) : State ι sha256 :=
  { s.goto i (.uploading loaded call id) with drawn := id :: s.drawn }

/-- The event is appended and the row is added. -/
def create (loaded : Loaded) (call : Call sha256) (id : Id) (row : EvidenceArtifactVersion) :
    State ι sha256 :=
  { s.goto i (.created loaded call id) with rows := s.rows.write i id row }

end State

/-- The key under which a call stores its object. -/
def Call.objectKey (call : Call sha256) (loaded : Loaded) (id : Id) : String :=
  objectKeyFor loaded.artifactId id call.file.extension

/-- One step of the system; `none` when a session is not at the step or has to wait. -/
def step [DecidableEq ι] [Fintype ι] (s : State ι sha256) : Label ι sha256 → Option (State ι sha256)
  | .load i artifactId =>
    match s.pc i with
    | .idle => some (s.goto i (.opened ⟨artifactId, versionsOf (s.rows.visible i) artifactId⟩))
    | _ => none
  | .call i call id =>
    match s.pc i with
    | .opened loaded =>
      match loaded.versions.find? fun v => v.sha256 = call.file.sha256 with
      | some existing => some (s.goto i (.found existing))
      | none => if id ∈ s.drawn then none else some (s.draw i loaded call id)
    | _ => none
  | .upload i outcome =>
    match s.pc i with
    | .uploading loaded call id =>
      match outcome with
      | .stored =>
        some ((s.put (call.objectKey loaded id) call.content).goto i (.appending loaded call id))
      | .failed => some (s.goto i .raised)
      | .lost => some ((s.put (call.objectKey loaded id) call.content).goto i .raised)
    | _ => none
  | .append i recordedAt =>
    match s.pc i with
    | .appending loaded call id =>
      let row := call.row loaded.artifactId id (nextVersionNumber loaded.versions) recordedAt
      if ¬ constraints.Admits s.rows.committed id row then
        some (s.goto i (.deleting loaded call id))
      else if s.rows.Waits i constraints.conflict row then none
      else some (s.create i loaded call id row)
    | _ => none
  | .appendFails i =>
    match s.pc i with
    | .appending loaded call id => some (s.goto i (.deleting loaded call id))
    | _ => none
  | .delete i deleted =>
    match s.pc i with
    | .deleting loaded call id =>
      if deleted then some ((s.remove (call.objectKey loaded id)).goto i .raised)
      else some (s.goto i .raised)
    | _ => none
  | .commit i =>
    match s.pc i with
    | .found _ | .created .. => some (s.commit i)
    | _ => none
  | .rollback i => some (s.rollback i)

end MiniGrc.EvidenceCapture
