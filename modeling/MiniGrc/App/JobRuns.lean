import MiniGrc.App.Jobs
import MiniGrc.ForStd.Table

/-!
# Running a job in a session

`app/jobs.py` in one session, with the tables that the handlers of jobs write. A handler
works in the session of `run_job`; `run_job` catches its exception and goes on in the same
session. After a rollback the session's objects are expired, and an object whose insert was
rolled back belongs to no row any more.

A flush that fails rolls the transaction back and leaves the session unusable, so that
`run_job` itself raises.
-/

namespace MiniGrc.JobRuns

open Jobs

/-- `IMPORT_SOURCES`. -/
inductive ImportSource
  | web
  | cli
  | watchedDirectory
  deriving DecidableEq, Repr

/-- `IMPORT_JOB_STATUSES`. -/
inductive ImportJobStatus
  | pending
  | validating
  | importing
  | completed
  | rejected
  deriving DecidableEq, Repr

/-- The target of an import, a mapping in insertion order; its text is kept as this list. -/
abbrev Target := List (String × String)

/-- A row of `import_jobs`; the key is its `id`. -/
structure ImportJob where
  source : ImportSource
  importerName : String
  originalFilename : String := ""
  fileSize : Nat := 0
  checksumSha256 : String := ""
  status : ImportJobStatus := .pending
  entityType : String := ""
  targetJson : Target := []
  recordsDiscovered : Nat := 0
  recordsCreated : Nat := 0
  recordsUpdated : Nat := 0
  recordsSkipped : Nat := 0
  validationErrorsJson : Option (List String) := none
  startedAt : Option Time := none
  completedAt : Option Time := none
  createdBy : String
  createdAt : Time
  deriving DecidableEq, Repr

/-- A row of `external_connections`, as far as a connection test uses it. -/
structure ExternalConnection where
  name : String
  lastTestedAt : Option Time := none
  lastTestStatus : String := ""
  lastTestMessage : String := ""
  deriving DecidableEq, Repr

/-- A row of `audit_events`. -/
structure AuditEvent where
  entityType : String
  entityId : Id
  action : String
  detail : String := ""
  actor : String := "system"
  deriving DecidableEq, Repr

/-- The database; `records` are the rows of all other tables. -/
structure Db (ρ : Type) where
  jobs : Table Job
  importJobs : Table ImportJob
  connections : Table ExternalConnection
  auditEvents : List AuditEvent
  records : Table ρ

/-- A session: the committed database, the one that its transaction sees, and whether it
    has been rolled back since the job at hand was loaded. -/
structure Session (ρ : Type) where
  committed : Db ρ
  current : Db ρ
  rolledBack : Bool := false

/-- What a call can raise. -/
inductive Raised
  | exception (message : String)
  /-- a flush has failed, and the session refuses to go on -/
  | brokenTransaction
  deriving DecidableEq, Repr

/-- The `KeyError` of a mapping without the key. -/
def keyError (key : String) : Raised := .exception (pyRepr key)

/-- `payload[key]`. -/
def item (payload : JsonObject) (key : String) : Except Raised JsonValue :=
  match payload.lookup key with
  | some value => .ok value
  | none => .error (keyError key)

variable {ρ α : Type}

/-- The session that a call leaves, with its value or its exception. -/
abbrev Called (ρ α : Type) := Session ρ × Except Raised α

namespace Session

/-- A session with no transaction open. -/
def fresh (db : Db ρ) : Session ρ := { committed := db, current := db }

/-- `session.rollback()`. -/
def rollback (s : Session ρ) : Session ρ := { s with current := s.committed, rolledBack := true }

/-- `session.commit()`. -/
def commit (s : Session ρ) : Session ρ := { s with committed := s.current }

/-- Write a row of `jobs`. -/
def setJob (s : Session ρ) (id : Id) (job : Job) : Session ρ :=
  { s with current := { s.current with jobs := s.current.jobs.insert id job } }

/-- Write a row of `import_jobs`. -/
def setImportJob (s : Session ρ) (id : Id) (job : ImportJob) : Session ρ :=
  { s with current := { s.current with importJobs := s.current.importJobs.insert id job } }

/-- Write a row of `external_connections`. -/
def setConnection (s : Session ρ) (id : Id) (conn : ExternalConnection) : Session ρ :=
  { s with current := { s.current with connections := s.current.connections.insert id conn } }

/-- `record_audit_event`. -/
def audit (s : Session ρ) (event : AuditEvent) : Session ρ :=
  { s with current := { s.current with auditEvents := s.current.auditEvents ++ [event] } }

end Session

/-- `JobHandler`. -/
abbrev JobHandler (ρ : Type) := Session ρ → JsonObject → Called ρ JsonObject

/-! ## `enqueue_job` and the claims -/

/-- The audit event of `enqueue_job`. -/
def enqueueEvent (id : Id) (args : EnqueueArgs) : AuditEvent where
  entityType := "job"
  entityId := id
  action := "enqueue"
  detail := s!"Enqueued {args.jobType} job"
  actor := args.actor

/-- `enqueue_job`, with the id of a new row; the id of the job. -/
def enqueueJob (s : Session ρ) (newId : Id) (args : EnqueueArgs) (availableAt createdAt : Time) :
    Session ρ × Id :=
  let existing := args.idempotencyKey.bind fun key =>
    s.current.jobs.toList.find? fun x => x.2.idempotencyKey = some key
  match existing with
  | some (id, _) => (s, id)
  | none =>
    ((s.setJob newId (args.job availableAt createdAt)).audit (enqueueEvent newId args), newId)

/-- `claim_specific_job`. -/
def claimSpecificJob (s : Session ρ) (id : Id) (workerId : String) (now : Time) :
    Session ρ × Option Job :=
  match s.current.jobs[id]? with
  | some row =>
    if row.status = .pending then
      (s.setJob id (row.claim workerId now), some (row.claim workerId now))
    else (s, none)
  | none => (s, none)

/-- The first of the rows that have been created first. -/
def earliest : List (Id × Job) → Option (Id × Job)
  | [] => none
  | x :: xs =>
    match earliest xs with
    | none => some x
    | some y => if y.2.createdAt < x.2.createdAt then some y else some x

/-- The job that `claim_job` claims when no other worker comes in between. -/
def candidateOf (db : Db ρ) (now : Time) : Option (Id × Job) :=
  earliest (db.jobs.toList.filter fun x => x.2.candidate now)

/-! ## `run_job` -/

/-- The text in the audit event of a run. -/
def runDetail (job : Job) (outcome : Except String JsonObject) : String :=
  match outcome with
  | .ok _ => s!"Job {job.jobType} succeeded on attempt {job.attempts}"
  | .error message =>
    if job.maxAttempts ≤ job.attempts then
      s!"Job {job.jobType} failed permanently after {job.attempts} attempts: {message}"
    else s!"Job {job.jobType} attempt {job.attempts} failed, retrying in " ++
      -- the back-off in seconds, as Python prints an integer or a half
      (if job.attempts = 0 then "2.5" else toString (5 * 2 ^ (job.attempts - 1))) ++
      s!"s: {message}"

/-- The audit event of a run. -/
def runEvent (id : Id) (job : Job) (outcome : Except String JsonObject) (actor : String) :
    AuditEvent where
  entityType := "job"
  entityId := id
  action := "run"
  detail := runDetail job outcome
  actor := actor

/-- The object of a job when its handler has ended: expired objects are read again, if
    there still is a row. -/
def objectAfter (s : Session ρ) (id : Id) (attempt : Job) : Job :=
  if s.rolledBack then (s.current.jobs[id]?).getD attempt else attempt

/-- What the flush after a run sets in the row of the job. -/
def outcomeUpdate (s : Session ρ) (id : Id) (job : Job) (outcome : Except String JsonObject)
    (now : Time) : JobUpdate :=
  if s.rolledBack then ((s.current.jobs[id]?).map (JobUpdate.afterExpiry outcome now)).getD {}
  else .between job (job.attempt.conclude outcome now)

/-- `run_job` after the handler has ended in session `s`; the job's object. -/
def recordOutcome (s : Session ρ) (id : Id) (job : Job) (outcome : Except String JsonObject)
    (actor : String) (now : Time) : Session ρ × Job :=
  let object := objectAfter s id job.attempt
  let written := match s.current.jobs[id]? with
    | some row => s.setJob id ((outcomeUpdate s id job outcome now).apply row)
    | none => s
  (written.audit (runEvent id object outcome actor), object.conclude outcome now)

/-- `run_job` on a job that has been loaded in the session. -/
def runJob (handlers : String → Option (JobHandler ρ)) (s : Session ρ) (id : Id) (job : Job)
    (actor : String) (now : Time) : Called ρ Job :=
  let s := { s with rolledBack := false }
  match handlers job.jobType with
  | none =>
    let (s, job) := recordOutcome s id job
      (.error s!"no handler registered for job_type '{job.jobType}'") actor now
    (s, .ok job)
  | some handler =>
    match handler s job.payloadJson with
    | (s, .ok result) =>
      let (s, job) := recordOutcome s id job (.ok result) actor now
      (s, .ok job)
    | (s, .error (.exception message)) =>
      let (s, job) := recordOutcome s id job (.error message) actor now
      (s, .ok job)
    | (s, .error .brokenTransaction) => (s, .error .brokenTransaction)

/-- `process_next_job` of a worker that is alone: the committed database afterwards. -/
def processNextJob (handlers : String → Option (JobHandler ρ)) (db : Db ρ) (workerId actor : String)
    (now concludedAt : Time) : Db ρ :=
  match candidateOf db now with
  | none => db
  | some (id, row) =>
    let claimed := row.claim workerId now
    let s := ((Session.fresh db).setJob id claimed).commit
    match runJob handlers s id claimed actor concludedAt with
    | (s, .ok _) => s.commit.committed
    | (s, .error _) => s.committed

end MiniGrc.JobRuns
