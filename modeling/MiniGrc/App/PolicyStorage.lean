import MiniGrc.App.Projection
import MiniGrc.App.StagedFiles
import MiniGrc.ForStd.FileTree

/-!
# Policy files

`app/storage.py`. A file is written to a temporary file, checked by its content and moved
to `policies/<policy id>/<version number>/document.<ext>`. The functions are cut where they
look at the stored files or change them: `stage` is what happens before that.

The temporary file is private to its request. The hash function and the reading of ZIP
archives are parameters.
-/

namespace MiniGrc.PolicyStorage

/-- What `zipfile` makes of a file. -/
inductive ZipFile
  /-- `is_zipfile` is false -/
  | notZip
  /-- `ZipFile` raises -/
  | broken
  /-- `namelist()` -/
  | names (names : List String)

/-- The parameters: SHA-256, `zipfile`, and `settings.max_upload_bytes`. -/
structure Storage where
  sha256 : Bytes → String
  zipFile : Bytes → ZipFile
  maxUploadBytes : Nat

/-- How an upload is refused. -/
inductive UploadError
  /-- `UploadValidationError` -/
  | validation (message : String)
  /-- any other exception -/
  | exception
  deriving DecidableEq, Repr

/-- `StoredUpload`. -/
structure StoredUpload where
  storedFilename : String
  mediaType : String
  byteSize : Nat
  sha256 : String
  originalFilename : String
  deriving DecidableEq, Repr

/-- The stored files, by policy and version number and by stored filename. -/
abbrev Files := FileTree (Id × Nat) String Bytes

/-! ## File names -/

/-- The part after the last `c`, or everything. -/
def afterLast (c : Char) (text : List Char) : List Char := (text.reverse.takeWhile (· ≠ c)).reverse

/-- A character in `[A-Za-z0-9._ -]`. -/
def isPlain (c : Char) : Bool := c.isAlphanum || c == '.' || c == '_' || c == ' ' || c == '-'

/-- `sanitize_original_filename`. -/
def sanitizeOriginalFilename (filename : String) : String :=
  let base := (strip (afterLast '/' filename.toList)).filter (· ≠ Char.ofNat 0)
  let base := String.ofList ((base.map fun c => if isPlain c then c else '_').take 255)
  if base = "" then "file" else base

/-- `_extension_of`, of a name of plain characters. -/
def extensionOf (filename : String) : String :=
  String.ofList ((afterLast '.' filename.toList).map Char.toLower)

/-- `ALLOWED_EXTENSIONS`. -/
def allowedExtensions : List (String × String) :=
  [("pdf", "application/pdf"),
    ("docx", "application/vnd.openxmlformats-officedocument.wordprocessingml.document")]

/-- `ALLOWED_EXTENSIONS[extension]`. -/
def mediaTypeOf (extension : String) : Option String := allowedExtensions.lookup extension

/-! ## Contents -/

/-- `_looks_like_pdf`. -/
def looksLikePdf (content : Bytes) : Bool :=
  [0x25, 0x50, 0x44, 0x46, 0x2D].isPrefixOf ((content.take 1024).dropWhile (· = 0))

variable (storage : Storage)

/-- `_looks_like_docx`. -/
def looksLikeDocx (content : Bytes) : Except UploadError Bool :=
  match storage.zipFile content with
  | .notZip => .ok false
  | .broken => .error .exception
  | .names names => .ok (names.contains "word/document.xml" && names.contains "[Content_Types].xml")

/-- `_validate_content`. -/
def validateContent (content : Bytes) (extension : String) : Except UploadError Unit :=
  if extension = "pdf" ∧ looksLikePdf content = false then
    .error (.validation "File does not look like a valid PDF.")
  else if extension = "docx" then
    (looksLikeDocx storage content).bind fun looks =>
      if looks then .ok ()
      else .error (.validation "File does not look like a valid DOCX document.")
  else .ok ()

/-! ## Storing -/

/-- The validated temporary file of an upload. -/
structure Staged where
  originalFilename : String
  extension : String
  mediaType : String
  content : Bytes
  byteSize : Nat

/-- `document.<ext>`. -/
def Staged.storedFilename (staged : Staged) : String := s!"document.{staged.extension}"

/-- `_save_policy_version` up to the look at the final path. -/
def stageContent (originalFilename extension mediaType : String) (chunks : List Bytes) :
    Except UploadError Staged :=
  match StagedFiles.writeChunks storage.maxUploadBytes ([], 0) chunks with
  | .error message => .error (.validation message)
  | .ok (content, byteSize) =>
    match validateContent storage content extension with
    | .error e => .error e
    | .ok () => .ok ⟨originalFilename, extension, mediaType, content, byteSize⟩

/-- `save_policy_version_upload` and `save_policy_version_from_bytes`, up to the same point. -/
def stage (filename : String) (chunks : List Bytes) : Except UploadError Staged :=
  match mediaTypeOf (extensionOf (sanitizeOriginalFilename filename)) with
  | none => .error (.validation "Only PDF and DOCX files are accepted.")
  | some mediaType =>
    stageContent storage (sanitizeOriginalFilename filename)
      (extensionOf (sanitizeOriginalFilename filename)) mediaType chunks

/-- The message for a final path that exists. -/
def alreadyStored : UploadError := .validation "This version already has a stored file."

/-- What `_save_policy_version` returns. -/
def Staged.stored (staged : Staged) : StoredUpload where
  storedFilename := staged.storedFilename
  mediaType := staged.mediaType
  byteSize := staged.byteSize
  sha256 := storage.sha256 staged.content
  originalFilename := staged.originalFilename

variable {storage}

/-- What a staged file has to do with its chunks. -/
theorem stageContent_ok {originalFilename extension mediaType : String} {chunks : List Bytes}
    {staged : Staged}
    (h : stageContent storage originalFilename extension mediaType chunks = .ok staged) :
    staged = ⟨originalFilename, extension, mediaType, chunks.flatten, chunks.flatten.length⟩ := by
  unfold stageContent at h
  split at h
  · cases h
  next hwritten =>
  obtain ⟨hcontent, hsize⟩ := StagedFiles.writeChunks_ok hwritten
  split at h
  · cases h
  · rw [← Except.ok.inj h, hcontent, hsize, List.nil_append, Nat.zero_add]

/-- The extension of a staged file, and its content. -/
theorem stage_ok {filename : String} {chunks : List Bytes} {staged : Staged}
    (h : stage storage filename chunks = .ok staged) :
    mediaTypeOf staged.extension = some staged.mediaType ∧ staged.content = chunks.flatten ∧
      staged.byteSize = staged.content.length := by
  unfold stage at h
  split at h
  · cases h
  · next hmedia =>
    rw [stageContent_ok h]
    exact ⟨hmedia, rfl, rfl⟩

/-- A file with an accepted extension that is not too long and passes the check is staged. -/
theorem stage_eq_ok {filename mediaType : String} {chunks : List Bytes}
    (hmedia : mediaTypeOf (extensionOf (sanitizeOriginalFilename filename)) = some mediaType)
    (hsize : chunks.flatten.length ≤ storage.maxUploadBytes)
    (hvalid : validateContent storage chunks.flatten
      (extensionOf (sanitizeOriginalFilename filename)) = .ok ()) :
    stage storage filename chunks = .ok ⟨sanitizeOriginalFilename filename,
      extensionOf (sanitizeOriginalFilename filename), mediaType, chunks.flatten,
      chunks.flatten.length⟩ := by
  have hwritten : StagedFiles.writeChunks storage.maxUploadBytes ([], 0) chunks =
      .ok ([] ++ chunks.flatten, 0 + chunks.flatten.length) :=
    StagedFiles.writeChunks_eq_ok (by rwa [Nat.zero_add])
  rw [List.nil_append, Nat.zero_add] at hwritten
  unfold stage
  simp only [hmedia]
  unfold stageContent
  simp only [hwritten, hvalid]

end MiniGrc.PolicyStorage
