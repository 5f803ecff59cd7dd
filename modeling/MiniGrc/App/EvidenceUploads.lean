import Mathlib.Data.List.Defs
import MiniGrc.App.AuditExport
import MiniGrc.App.EvidenceCapture
import MiniGrc.App.PolicyUploads

/-!
# Uploads and Drive captures of evidence

`_capture_and_store_version` of `app/routers/evidence_artifacts.py` and
`run_google_drive_capture` of `app/connectors/google_drive_capture.py` up to their calls of
`capture_evidence_version`, with `captured_filename` of `app/google_drive.py`; and the system
of captures and policy uploads that files them. A capture of a disabled connector instance,
one with a repeated idempotency key and one whose file id is not recognized are left out: they
make no call.

`str.lower` is a parameter, and what Drive returns is an argument.
-/

namespace MiniGrc.EvidenceUploads

open Connectors (ConnectorManifest)
open EvidenceCapture (Call captureChunksToTempFile)
open PolicyStorage

/-- The parameters: those of the storage, `str.lower`, and whether the settings have an
    evidence repository. -/
structure Settings extends Storage where
  lower : String → String
  evidenceRepositoryConfigured : Bool

/-- How a capture is refused before its call. -/
inductive CaptureError
  | objectStorageError (message : String)
  | connectorContractError (message : String)
  | googleDriveError (message : String)
  /-- any other exception -/
  | exception
  deriving DecidableEq, Repr

/-! ## `app/object_storage.py` -/

/-- `ALLOWED_EVIDENCE_MEDIA_TYPES`. -/
def allowedEvidenceMediaTypes : List (String × String) :=
  [("pdf", "application/pdf"),
    ("docx", "application/vnd.openxmlformats-officedocument.wordprocessingml.document"),
    ("png", "image/png"), ("jpg", "image/jpeg"), ("jpeg", "image/jpeg"), ("csv", "text/csv"),
    ("txt", "text/plain"), ("json", "application/json"), ("log", "text/plain")]

/-- `", ".join(sorted(ALLOWED_EVIDENCE_MEDIA_TYPES))`. -/
def allowedExtensionsText : String := "csv, docx, jpeg, jpg, json, log, pdf, png, txt"

/-- `_looks_like_png`. -/
def looksLikePng (content : Bytes) : Bool :=
  content.take 8 = [0x89, 0x50, 0x4E, 0x47, 0x0D, 0x0A, 0x1A, 0x0A]

/-- `_looks_like_jpeg`. -/
def looksLikeJpeg (content : Bytes) : Bool := content.take 3 = [0xFF, 0xD8, 0xFF]

/-- `_SNIFFERS[extension]`, for the extensions of `_SNIFFED_EXTENSIONS`. -/
def sniffers (storage : Storage) (extension : String) :
    Option (Bytes → Except CaptureError Bool) :=
  match extension with
  | "pdf" => some fun content => .ok (looksLikePdf content)
  | "docx" => some fun content => (looksLikeDocx storage content).mapError fun _ => .exception
  | "png" => some fun content => .ok (looksLikePng content)
  | "jpg" | "jpeg" => some fun content => .ok (looksLikeJpeg content)
  | _ => none

/-- `validate_evidence_content`. -/
def validateEvidenceContent (storage : Storage) (content : Bytes) (extension : String) :
    Except CaptureError Unit :=
  match sniffers storage extension with
  | none => .ok ()
  | some sniffer =>
    (sniffer content).bind fun looks =>
      if looks then .ok ()
      else .error (.objectStorageError s!"File does not look like a valid .{extension} file.")

/-- `_iter_bytes_chunks`. -/
def iterBytesChunks (rawBytes : Bytes) : List Bytes := rawBytes.toChunks (1024 * 1024)

/-- `build_s3_client`. -/
def buildS3Client (settings : Settings) : Except CaptureError Unit :=
  if settings.evidenceRepositoryConfigured then .ok ()
  else .error (.objectStorageError "The evidence artifact repository is not configured.")

/-! ## `app/google_drive.py` -/

/-- `DriveFileMetadata`, without the link. -/
structure DriveFileMetadata where
  fileId : String
  name : String
  mimeType : String
  currentRevisionId : Option String

/-- `GOOGLE_WORKSPACE_EXPORT_MIME_TYPES`; all are exported as PDF. -/
def googleWorkspaceExportMimeTypes : List String :=
  ["application/vnd.google-apps.document", "application/vnd.google-apps.spreadsheet",
    "application/vnd.google-apps.presentation"]

/-- `BLOB_MIME_TYPE_EXTENSIONS`. -/
def blobMimeTypeExtensions : List (String × String) :=
  [("application/pdf", "pdf"),
    ("application/vnd.openxmlformats-officedocument.wordprocessingml.document", "docx")]

/-- The name, with the extension unless it ends in it. -/
def withExtension (lower : String → String) (name extension : String) : String :=
  if (s!".{extension}").toList.isSuffixOf (lower name).toList then name
  else s!"{name}.{extension}"

/-- `captured_filename`. -/
def capturedFilename (lower : String → String) (metadata : DriveFileMetadata) : String :=
  if metadata.mimeType ∈ googleWorkspaceExportMimeTypes then
    withExtension lower metadata.name "pdf"
  else
    match blobMimeTypeExtensions.lookup metadata.mimeType with
    | some extension => withExtension lower metadata.name extension
    | none => metadata.name

/-- A revision in `list_revisions`, with its parsed `modifiedTime`. -/
structure DriveRevision where
  id : Option String
  modifiedTime : Option Time

/-- What Drive returns for a file; `download_file_content` may raise. -/
structure DriveFile where
  metadata : DriveFileMetadata
  revisions : List DriveRevision
  content : Except String Bytes

/-- `_resolve_source_modified_at`. -/
def resolveSourceModifiedAt (revisions : List DriveRevision) (currentRevisionId : Option String) :
    Option Time :=
  revisions.findSome? fun revision =>
    if revision.id = currentRevisionId then revision.modifiedTime else none

/-! ## The calls of `capture_evidence_version` -/

/-- Where a capture comes from. -/
inductive Source
  /-- the form of a user -/
  | upload (filename : String) (chunks : List Bytes) (userId : String)
  /-- the Drive connector -/
  | drive (file : DriveFile) (manifest : ConnectorManifest) (connectionId actorId : String)
      (startedAt : Time)

variable (settings : Settings)

/-- `_capture_and_store_version`. -/
def captureAndStoreVersion (filename : String) (chunks : List Bytes) (userId : String) :
    Except CaptureError (Call settings.sha256) :=
  let originalFilename := sanitizeOriginalFilename filename
  let extension := extensionOf originalFilename
  match allowedEvidenceMediaTypes.lookup extension with
  | none => .error (.objectStorageError
      s!"Unsupported file type '.{extension}'. Allowed: {allowedExtensionsText}.")
  | some mediaType =>
    ((captureChunksToTempFile settings.sha256 settings.maxUploadBytes chunks).mapError
      .objectStorageError).bind fun captured =>
    (validateEvidenceContent settings.toStorage captured.content extension).bind fun _ =>
    (buildS3Client settings).bind fun _ =>
    .ok (Call.ofCaptured captured {
      sha256 := captured.hash
      byteSize := captured.byteSize
      mediaType := mediaType
      originalFilename := originalFilename
      extension := extension
      sourceType := "manual" } { actorType := "user", actorId := some userId } none)

/-- `run_google_drive_capture`, with `ingest_file_capture`. -/
def runGoogleDriveCapture (file : DriveFile) (manifest : ConnectorManifest)
    (connectionId actorId : String) (startedAt : Time) :
    Except CaptureError (Call settings.sha256) :=
  let originalFilename := capturedFilename settings.lower file.metadata
  let extension := settings.lower (.ofList (afterLast '.' originalFilename.toList))
  match allowedEvidenceMediaTypes.lookup extension with
  | none => .error (.objectStorageError
      s!"Unsupported Drive file type '.{extension}'. Allowed: {allowedExtensionsText}.")
  | some mediaType =>
    (file.content.mapError .googleDriveError).bind fun content =>
    ((captureChunksToTempFile settings.sha256 settings.maxUploadBytes
      (iterBytesChunks content)).mapError .objectStorageError).bind fun captured =>
    (validateEvidenceContent settings.toStorage captured.content extension).bind fun _ =>
    (buildS3Client settings).bind fun _ =>
    if manifest.capabilities.contains "file.capture" = false then
      .error (.connectorContractError (s!"connector {pyRepr manifest.connectorId} does not " ++
        "declare the file.capture capability"))
    else
      .ok (Call.ofCaptured captured {
        sha256 := captured.hash
        byteSize := captured.byteSize
        mediaType := mediaType
        originalFilename := originalFilename
        extension := extension
        sourceType := manifest.connectorId
        sourceConnectionId := some connectionId
        sourceObjectId := some file.metadata.fileId
        sourceRevisionId := file.metadata.currentRevisionId
        sourceModifiedAt :=
          resolveSourceModifiedAt file.revisions file.metadata.currentRevisionId }
        { actorType := "connector", actorId := some actorId } (some startedAt))

/-- The call of a capture. -/
def Source.call : Source → Except CaptureError (Call settings.sha256)
  | .upload filename chunks userId => captureAndStoreVersion settings filename chunks userId
  | .drive file manifest connectionId actorId startedAt =>
    runGoogleDriveCapture settings file manifest connectionId actorId startedAt

/-! ## Captures and policy uploads -/

variable {ι : Type}

/-- The evidence and the policies, each with its sessions. -/
structure State (ι : Type) (settings : Settings) where
  evidence : EvidenceCapture.State ι settings.sha256
  policies : PolicyUploads.State ι

/-- The steps. -/
inductive Label (ι : Type) (settings : Settings)
  /-- session `i` captures from a source; `new_id()` gives `id` if it is called -/
  | capture (i : ι) (source : Source) (id : Id)
  /-- a step on the evidence that is no call -/
  | evidence (l : EvidenceCapture.Label ι settings.sha256)
  | policies (l : PolicyUploads.Label ι)

variable {settings}

/-- Nothing is filed; some objects and files are there. -/
def State.initial (objects : EvidenceCapture.ObjectStore) (files : Files) : State ι settings where
  evidence := .initial objects
  policies := .initial ⟨∅, files⟩

/-- One step. A capture that is refused before its call is rolled back. -/
def step [DecidableEq ι] [Fintype ι] (s : State ι settings) :
    Label ι settings → Option (State ι settings)
  | .capture i source id =>
    let l := match source.call settings with
      | .ok call => .call i call id
      | .error _ => .rollback i
    (EvidenceCapture.step s.evidence l).map fun evidence => { s with evidence := evidence }
  | .evidence (.call ..) => none
  | .evidence l =>
    (EvidenceCapture.step s.evidence l).map fun evidence => { s with evidence := evidence }
  | .policies l =>
    (PolicyUploads.step settings.toStorage s.policies l).map fun policies =>
      { s with policies := policies }

end MiniGrc.EvidenceUploads
