import MiniGrc.App.Connections

/-!
# Imports

`run_import`, its job handler and `enqueue_and_run_import` of `app/imports.py`, in one
session. An importer validates all rows of a file before it adds them, so that it either
raises or adds its rows; both importers report as many created records as they add rows.
What raises inside `fn(...)` or the flush after it counts as the importer's exception.

`Point` names the statements of `run_import`, outside its `try` blocks, at which the
environment can raise an exception (a failed query, memory, the clock).
-/

namespace MiniGrc.Imports

open Jobs JobRuns Connections

variable {ρ : Type}

/-- A registered importer: the type of its records, and the rows that it adds to the records
    that the session sees. -/
structure Importer (ρ : Type) where
  entityType : String
  fn : Table ρ → List UInt8 → Target → Except String (List ρ)

/-- `ImportResult`. -/
structure ImportResult where
  discovered : Nat
  created : Nat
  updated : Nat := 0
  skipped : Nat := 0
  deriving DecidableEq, Repr

/-- What the importers return for the rows that they have added. -/
def ImportResult.ofRows (rows : List ρ) : ImportResult where
  discovered := rows.length
  created := rows.length

/-- `_IMPORTERS` and `compute_checksum`. -/
structure Importers (ρ : Type) where
  get : String → Option (Importer ρ)
  computeChecksum : List UInt8 → String

/-- The arguments of `run_import`. -/
structure ImportArgs where
  importerName : String
  rawBytes : List UInt8
  filename : String
  target : Target
  actor : String
  source : ImportSource
  deriving DecidableEq, Repr

/-- The default of `max_bytes`. -/
def defaultMaxBytes : Nat := 25 * 1024 * 1024

/-- What the environment gives a run of `run_import`: new ids and clock readings. -/
structure ImportEnv where
  jobId : Id
  /-- the id of the row that is added after a rollback -/
  rejectedId : Id
  recordId : Nat → Id
  startedAt : Time
  createdAt : Time
  completedAt : Time

/-- Where the environment can raise an exception. -/
inductive Point
  /-- while the arguments are evaluated -/
  | arguments
  /-- in the flush of the new row -/
  | insert
  | checksum
  | duplicateQuery
  | importerLookup
  | decode
  /-- in the flush of the row that is added after a rollback -/
  | readd
  /-- while the outcome is recorded -/
  | record
  deriving DecidableEq, Repr

/-- The row that `run_import` starts with. -/
def startedJob (env : ImportEnv) (args : ImportArgs) : ImportJob where
  source := args.source
  importerName := args.importerName
  originalFilename := args.filename
  fileSize := args.rawBytes.length
  status := .validating
  targetJson := args.target
  startedAt := some env.startedAt
  createdBy := args.actor
  createdAt := env.createdAt

/-- Another completed job with the same checksum, importer and target text (the first in key
    order; which one the query gives is the database's choice). -/
def duplicateOf (importJobs : Table ImportJob) (id : Id) (job : ImportJob) :
    Option (Id × ImportJob) :=
  importJobs.toList.find? fun x =>
    decide (x.2.checksumSha256 = job.checksumSha256) &&
      decide (x.2.importerName = job.importerName) &&
      decide (x.2.targetJson = job.targetJson) && decide (x.2.status = .completed) &&
      decide (x.1 ≠ id)

/-- `raw_bytes.decode("utf-8-sig")` does not raise. -/
def isUtf8 (rawBytes : List UInt8) : Bool := (ByteArray.mk rawBytes.toArray).validateUTF8

/-- `Import '{filename}' {rest}`. -/
def importDetail (filename rest : String) : String :=
  s!"Import {Char.ofNat 39}{filename}{Char.ofNat 39} {rest}"

/-- The audit event of an import job. -/
def importEvent (id : Id) (action detail actor : String) : AuditEvent where
  entityType := "import_job"
  entityId := id
  action := action
  detail := detail
  actor := actor

/-- `_reject`'s changes of the row. -/
def rejectedJob (env : ImportEnv) (job : ImportJob) (message : String) : ImportJob :=
  { job with
    status := .rejected, validationErrorsJson := some [message]
    completedAt := some env.completedAt }

/-- The changes for a duplicate of the job `duplicateId`. -/
def skippedJob (env : ImportEnv) (job : ImportJob) (duplicateId : Id) : ImportJob :=
  { job with
    status := .completed, recordsSkipped := 1
    validationErrorsJson := some [s!"Duplicate of already-completed import job {duplicateId}"]
    completedAt := some env.completedAt }

/-- The changes after the importer has returned. -/
def completedJob (env : ImportEnv) (job : ImportJob) (result : ImportResult) : ImportJob :=
  { job with
    status := .completed, recordsDiscovered := result.discovered
    recordsCreated := result.created, recordsUpdated := result.updated
    recordsSkipped := result.skipped, completedAt := some env.completedAt }

/-- Add the rows of an importer under new ids. -/
def addRecords (recordId : Nat → Id) : List ρ → Table ρ → Table ρ
  | [], records => records
  | row :: rows, records =>
    addRecords (fun n => recordId (n + 1)) rows (records.insert (recordId 0) row)

/-- The importer adds its rows. -/
def addRows (s : Session ρ) (env : ImportEnv) (rows : List ρ) : Session ρ :=
  { s with current := { s.current with
      records := addRecords env.recordId rows s.current.records } }

/-- Raise the exception of the environment at a point. -/
def raiseAt (s : Session ρ) (point : Point) : Called ρ Id :=
  (s, .error (.exception s!"raised at {reprStr point}"))

/-- Write the outcome of an import and record its audit event; the id of the import job. -/
def recordImport (fault : Option Point) (s : Session ρ) (id : Id) (job : ImportJob)
    (event : AuditEvent) : Called ρ Id :=
  if fault = some .record then raiseAt (s.setImportJob id job) .record
  else ((s.setImportJob id job).audit event, .ok id)

/-- `_reject`. -/
def reject (env : ImportEnv) (fault : Option Point) (s : Session ρ) (id : Id) (job : ImportJob)
    (args : ImportArgs) (message : String) : Called ρ Id :=
  recordImport fault s id (rejectedJob env job message)
    (importEvent id "reject" (importDetail args.filename s!"rejected: {message}") args.actor)

/-- `run_import` after an exception of the importer: everything that the session has not
    committed is rolled back, and the job is added again. -/
def rejectAfterRollback (imps : Importers ρ) (env : ImportEnv) (fault : Option Point)
    (s : Session ρ) (args : ImportArgs) (message : String) : Called ρ Id :=
  let s := s.rollback
  if fault = some .readd then (s, .error .brokenTransaction)
  else
    let job := { startedJob env args with
      checksumSha256 := imps.computeChecksum args.rawBytes, status := .rejected
      validationErrorsJson := some [Job.truncated message]
      completedAt := some env.completedAt }
    recordImport fault s env.rejectedId job
      (importEvent env.rejectedId "reject" (importDetail args.filename s!"rejected: {message}")
        args.actor)

/-- `run_import` from the call of the importer on. -/
def importRows (imps : Importers ρ) (importer : Importer ρ) (env : ImportEnv)
    (fault : Option Point) (s : Session ρ) (job : ImportJob) (args : ImportArgs) : Called ρ Id :=
  match importer.fn s.current.records args.rawBytes args.target with
  | .error message => rejectAfterRollback imps env fault s args message
  | .ok rows =>
    let result := ImportResult.ofRows rows
    recordImport fault (addRows s env rows) env.jobId (completedJob env job result)
      (importEvent env.jobId "complete"
        (importDetail args.filename s!"via {args.importerName}: created {result.created}")
        args.actor)

/-- `run_import`; the id of the import job that it returns. -/
def runImport (imps : Importers ρ) (env : ImportEnv) (fault : Option Point) (s : Session ρ)
    (args : ImportArgs) (maxBytes : Nat) : Called ρ Id :=
  if fault = some .arguments then raiseAt s .arguments
  else if fault = some .insert then (s.rollback, .error .brokenTransaction)
  else
    let job := startedJob env args
    let s := s.setImportJob env.jobId job
    if maxBytes < args.rawBytes.length then
      reject env fault s env.jobId job args
        s!"File exceeds the maximum size of {maxBytes / (1024 * 1024)} MB."
    else if fault = some .checksum then raiseAt s .checksum
    else
      let job := { job with checksumSha256 := imps.computeChecksum args.rawBytes }
      if fault = some .duplicateQuery then raiseAt (s.setImportJob env.jobId job) .duplicateQuery
      else match duplicateOf s.current.importJobs env.jobId job with
        | some (duplicateId, _) =>
          recordImport fault s env.jobId (skippedJob env job duplicateId)
            (importEvent env.jobId "skip_duplicate"
              (importDetail args.filename s!"skipped — identical to job {duplicateId}")
              args.actor)
        | none =>
          if fault = some .importerLookup then
            raiseAt (s.setImportJob env.jobId job) .importerLookup
          else match imps.get args.importerName with
            | none =>
              reject env fault s env.jobId job args
                s!"Unknown importer {Char.ofNat 39}{args.importerName}{Char.ofNat 39}"
            | some importer =>
              let job := { job with entityType := importer.entityType }
              if fault = some .decode then raiseAt (s.setImportJob env.jobId job) .decode
              else if !isUtf8 args.rawBytes then
                reject env fault s env.jobId job args "File is not valid UTF-8 text."
              else
                importRows imps importer env fault
                  (s.setImportJob env.jobId { job with status := .importing })
                  { job with status := .importing } args

/-! ## The job of an import -/

/-- The payload of `enqueue_and_run_import`. -/
def payloadOf (args : ImportArgs) : JsonObject :=
  [("importer_name", .text args.importerName), ("raw_bytes_b64", .bytes args.rawBytes),
    ("filename", .text args.filename), ("target", .mapping args.target),
    ("actor", .text args.actor),
    ("source", .text (match args.source with
      | .web => "web"
      | .cli => "cli"
      | .watchedDirectory => "watched_directory"))]

/-- The source that a payload names; the table refuses any other. -/
def parseSource (source : String) : Option ImportSource :=
  if source = "web" then some .web
  else if source = "cli" then some .cli
  else if source = "watched_directory" then some .watchedDirectory
  else none

/-- The arguments in a payload: a missing key raises, and a value of another type than
    `payloadOf` writes makes the insert fail. -/
def argsOf (payload : JsonObject) : Except Raised ImportArgs := do
  let rawBytes ← item payload "raw_bytes_b64"
  let importerName ← item payload "importer_name"
  let filename ← item payload "filename"
  let target ← item payload "target"
  let actor ← item payload "actor"
  let source ← item payload "source"
  match rawBytes, importerName, filename, target, actor, source with
  | .bytes rawBytes, .text importerName, .text filename, .mapping target, .text actor,
    .text source =>
    match parseSource source with
    | some source => .ok { importerName, rawBytes, filename, target, actor, source }
    | none => .error .brokenTransaction
  | _, _, _, _, _, _ => .error .brokenTransaction

/-- `job.status`, as text. -/
def statusText : ImportJobStatus → String
  | .pending => "pending"
  | .validating => "validating"
  | .importing => "importing"
  | .completed => "completed"
  | .rejected => "rejected"

/-- `_run_import_job_handler`. -/
def runImportJobHandler (imps : Importers ρ) (env : ImportEnv) (fault : Option Point) :
    JobHandler ρ := fun s payload =>
  match argsOf payload with
  | .error .brokenTransaction => (s.rollback, .error .brokenTransaction)
  | .error raised => (s, .error raised)
  | .ok args =>
    match runImport imps env fault s args defaultMaxBytes with
    | (s, .error raised) => (s, .error raised)
    | (s, .ok id) =>
      let status := (s.current.importJobs[id]?).elim "" fun job => statusText job.status
      (s, .ok [("import_job_id", .id id), ("status", .text status)])

/-- The handlers that the worker registers. -/
def registered (imps : Importers ρ) (env : ImportEnv) (fault : Option Point)
    (probe : ExternalConnection → Option String) : String → Option (JobHandler ρ) := fun jobType =>
  if jobType = "run_import" then some (runImportJobHandler imps env fault)
  else if jobType = "connection_test" then
    some (connectionTestJobHandler probe env.completedAt)
  else none

/-- What the environment gives `enqueue_and_run_import` besides: the id of the job and the
    clock readings of the job system. -/
structure InlineEnv extends ImportEnv where
  newJobId : Id
  availableAt : Time
  enqueuedAt : Time
  claimedAt : Time
  concludedAt : Time

/-- The import job of a finished job's result, if the session finds it. -/
def importJobOf (s : Session ρ) (job : Job) : Option (Id × ImportJob) :=
  match job.status, job.resultJson with
  | .succeeded, some result =>
    match result.lookup "import_job_id" with
    | some (.id id) => (s.current.importJobs[id]?).map fun row => (id, row)
    | _ => none
  | _, _ => none

/-- `enqueue_and_run_import`: the import job that it returns with its id, or `none` for the
    record in the shape of an import job that it makes up when the job has failed to run. -/
def enqueueAndRunImport (handlers : String → Option (JobHandler ρ)) (env : InlineEnv)
    (s : Session ρ) (args : ImportArgs) : Called ρ (Option (Id × ImportJob)) :=
  let (s, id) := enqueueJob s env.newJobId
    { jobType := "run_import", payloadJson := payloadOf args, actor := args.actor }
    env.availableAt env.enqueuedAt
  match claimSpecificJob s id "inline" env.claimedAt with
  | (s, none) => (s, .ok none)
  | (s, some claimed) =>
    match runJob handlers s id claimed args.actor env.concludedAt with
    | (s, .error raised) => (s, .error raised)
    | (s, .ok job) => (s, .ok (importJobOf s job))

end MiniGrc.Imports
