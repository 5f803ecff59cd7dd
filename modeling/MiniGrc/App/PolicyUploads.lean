import MiniGrc.App.PolicyStorage
import MiniGrc.ForStd.UnitOfWork
import MiniGrc.ForStd.OpenRows

/-!
# Uploads of policy versions

`upload_policy_version` and `capture_drive_version` of `app/routers/policies.py`, first as
one request by itself and then cut into its steps on the database and on the files, so that
the requests of any number of sessions interleave. A request goes through

    idle → numbered → staged → checked → stored → inserted → idle
                   ↘ answered ↙

`get_db` commits at the end of every request that does not raise. The version number comes
from the committed versions, the file is in its place before the row is inserted, and a
rollback leaves it there.
-/

namespace MiniGrc.PolicyUploads

open PolicyStorage

/-- Where `capture_drive_version` has its content from. -/
structure DriveSource where
  fileId : String
  revisionId : Option String
  modifiedAt : Option Time
  deriving DecidableEq, Repr

/-- A request to add a version. -/
structure Request where
  policyId : Id
  filename : String
  chunks : List Bytes
  /-- the user's e-mail address -/
  user : String
  changeNote : String
  /-- `none` for `upload_policy_version` -/
  drive : Option DriveSource := none

/-- A row of `policy_versions`, without the columns of the lifecycle; the key is its `id`. -/
structure PolicyVersion extends StoredUpload where
  policyId : Id
  versionNumber : Nat
  uploader : String
  changeNote : String
  createdAt : Time
  sourceType : String := "manual"
  sourceFileId : Option String := none
  sourceRevisionId : Option String := none
  sourceModifiedAt : Option Time := none
  deriving DecidableEq, Repr

/-- `uq_policy_version_number`. -/
def constraints : Constraints PolicyVersion where
  conflict v v' := v.policyId = v'.policyId ∧ v.versionNumber = v'.versionNumber
  refs _ := []

/-- `policy.latest_version.version_number + 1`, or `1`. -/
def nextVersionNumber (rows : Table PolicyVersion) (policyId : Id) : Nat :=
  match (((rows.toList.map Prod.snd).filter fun v => v.policyId = policyId).map
    fun v => v.versionNumber).max? with
  | some latest => latest + 1
  | none => 1

/-- The row of a request. -/
def Request.row (request : Request) (versionNumber : Nat) (stored : StoredUpload)
    (createdAt : Time) : PolicyVersion :=
  match request.drive with
  | none =>
    { toStoredUpload := stored
      policyId := request.policyId
      versionNumber := versionNumber
      uploader := request.user
      changeNote := request.changeNote
      createdAt := createdAt }
  | some source =>
    { toStoredUpload := stored
      policyId := request.policyId
      versionNumber := versionNumber
      uploader := request.user
      changeNote := if request.changeNote = "" then "Captured from Google Drive"
        else request.changeNote
      createdAt := createdAt
      sourceType := "drive"
      sourceFileId := some source.fileId
      sourceRevisionId := source.revisionId
      sourceModifiedAt := source.modifiedAt }

variable (storage : Storage)

/-! ## A request by itself -/

/-- The committed rows and the stored files. -/
structure Store where
  rows : Table PolicyVersion
  files : Files

/-- How far the environment lets a request come. -/
inductive Reach
  /-- it fails, or the process dies, before `os.replace` -/
  | staging
  /-- the insert or the commit fails, or the process dies, after `os.replace` -/
  | storing
  | complete
  deriving DecidableEq, Repr

/-- How a request ends. -/
inductive Result
  | created (version : PolicyVersion)
  /-- the answer is an error message -/
  | rejected (message : String)
  | raised

/-- The result of a refused upload. -/
def UploadError.result : UploadError → Result
  | .validation message => .rejected message
  | .exception => .raised

/-- A request with a policy that is there, and `get_db` around it. -/
def upload (s : Store) (request : Request) (id : Id) (createdAt : Time) (reach : Reach) :
    Store × Result :=
  let versionNumber := nextVersionNumber s.rows request.policyId
  match stage storage request.filename request.chunks with
  | .error e => (s, UploadError.result e)
  | .ok staged =>
    if reach = .staging then (s, .raised)
    else if (s.files.file (request.policyId, versionNumber) staged.storedFilename).isSome then
      (s, UploadError.result alreadyStored)
    else
      let files :=
        s.files.put (request.policyId, versionNumber) staged.storedFilename staged.content
      let row := request.row versionNumber (staged.stored storage) createdAt
      if reach = .storing ∨ ¬ constraints.Admits s.rows id row then (⟨s.rows, files⟩, .raised)
      else (⟨s.rows.insert id row, files⟩, .created row)

/-! ## Requests from several sessions -/

variable {ι : Type}

/-- Where a session stands. -/
inductive Pc
  | idle
  /-- the version number is computed; the file is staged next -/
  | numbered (request : Request) (versionNumber : Nat)
  /-- the file is staged and valid; the look at the final path is next -/
  | staged (request : Request) (versionNumber : Nat) (file : Staged)
  /-- the final path was free; `os.replace` is next -/
  | checked (request : Request) (versionNumber : Nat) (file : Staged)
  /-- the file is in its place; the insert is next -/
  | stored (request : Request) (versionNumber : Nat) (file : Staged)
  /-- the row is inserted; the commit is next -/
  | inserted (request : Request) (versionNumber : Nat) (file : Staged)
  /-- an error message is returned; the commit is next -/
  | answered (message : String)

/-- The rows, the files and the sessions. -/
structure State (ι : Type) where
  rows : OpenRows ι PolicyVersion
  files : Files
  pc : ι → Pc

/-- The steps of the system. -/
inductive Label (ι : Type)
  /-- session `i` begins a request and computes its version number -/
  | request (i : ι) (request : Request)
  /-- session `i` stages its file -/
  | stage (i : ι)
  /-- session `i` looks whether the final path exists -/
  | check (i : ι)
  /-- session `i` moves its file to the final path -/
  | replace (i : ι)
  /-- session `i` inserts its row under the fresh `new_id()` -/
  | insert (i : ι) (id : Id) (createdAt : Time)
  /-- session `i` commits -/
  | commit (i : ι)
  /-- session `i` raises or dies, at any point -/
  | rollback (i : ι)

namespace State

/-- No request has begun. -/
def initial (start : Store) : State ι := ⟨.closed start.rows, start.files, fun _ => .idle⟩

variable [DecidableEq ι] (s : State ι) (i : ι)

/-- Session `i` goes on. -/
def goto (pc : Pc) : State ι := { s with pc := Function.update s.pc i pc }

/-- Commit session `i`'s transaction. -/
def commit : State ι := { s with rows := s.rows.commit i, pc := Function.update s.pc i .idle }

/-- Roll session `i`'s transaction back; its file stays where it is. -/
def rollback : State ι := { s with rows := s.rows.rollback i, pc := Function.update s.pc i .idle }

/-- Session `i`'s file is in its place. -/
def place (request : Request) (versionNumber : Nat) (file : Staged) : State ι :=
  { s.goto i (.stored request versionNumber file) with
    files := s.files.put (request.policyId, versionNumber) file.storedFilename file.content }

/-- Session `i`'s row is inserted. -/
def insertRow (request : Request) (versionNumber : Nat) (file : Staged) (id : Id)
    (row : PolicyVersion) : State ι :=
  { s.goto i (.inserted request versionNumber file) with rows := s.rows.write i id row }

end State

/-- One step of the system; `none` when a session is not at the step or has to wait. -/
def step [DecidableEq ι] [Fintype ι] (s : State ι) : Label ι → Option (State ι)
  | .request i request =>
    match s.pc i with
    | .idle => some (s.goto i (.numbered request
        (nextVersionNumber (s.rows.visible i) request.policyId)))
    | _ => none
  | .stage i =>
    match s.pc i with
    | .numbered request versionNumber =>
      match PolicyStorage.stage storage request.filename request.chunks with
      | .ok file => some (s.goto i (.staged request versionNumber file))
      | .error (.validation message) => some (s.goto i (.answered message))
      | .error .exception => some (s.rollback i)
    | _ => none
  | .check i =>
    match s.pc i with
    | .staged request versionNumber file =>
      if (s.files.file (request.policyId, versionNumber) file.storedFilename).isSome then
        some (s.goto i (.answered "This version already has a stored file."))
      else some (s.goto i (.checked request versionNumber file))
    | _ => none
  | .replace i =>
    match s.pc i with
    | .checked request versionNumber file => some (s.place i request versionNumber file)
    | _ => none
  | .insert i id createdAt =>
    match s.pc i with
    | .stored request versionNumber file =>
      let row := request.row versionNumber (file.stored storage) createdAt
      if ¬ s.rows.Unused id then none
      else if ¬ constraints.Admits s.rows.committed id row then some (s.rollback i)
      else if s.rows.Waits i constraints.conflict row then none
      else some (s.insertRow i request versionNumber file id row)
    | _ => none
  | .commit i =>
    match s.pc i with
    | .inserted .. | .answered _ => some (s.commit i)
    | _ => none
  | .rollback i => some (s.rollback i)

end MiniGrc.PolicyUploads
