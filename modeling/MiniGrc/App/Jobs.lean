import Mathlib.Algebra.Group.Nat.Defs
import MiniGrc.App.PythonStrings

/-!
# Background jobs

The `Job` row of `app/models.py` and what the statements of `app/jobs.py` make of one row:
`enqueue_job`, the candidate predicate with the guarded updates that claim a job, and the
outcome that `run_job` records.

The handler is the caller's: it gives back its result, or the text of its exception. A job
type without a handler counts as a handler that raises. The columns `payload_json` and
`result_json` hold the mappings that their texts stand for.
-/

namespace MiniGrc.Jobs

/-- `JOB_STATUSES`. -/
inductive JobStatus
  | pending
  | running
  | succeeded
  | failed
  deriving DecidableEq, Repr

/-- The statuses of a job that is over. -/
def JobStatus.terminal : JobStatus → Bool
  | .pending | .running => false
  | .succeeded | .failed => true

/-- A value in the JSON text of a payload or a result. -/
inductive JsonValue
  | text (value : String)
  | id (value : Id)
  /-- bytes, in base64 -/
  | bytes (value : List UInt8)
  | mapping (value : List (String × String))
  deriving DecidableEq, Repr

/-- A digit of `base64`. -/
def base64Digit (n : Nat) : Char :=
  "ABCDEFGHIJKLMNOPQRSTUVWXYZabcdefghijklmnopqrstuvwxyz0123456789+/".toList.getD (n % 64) '='

/-- `base64.b64encode`. -/
def base64 : List UInt8 → List Char
  | [] => []
  | [a] => [base64Digit (a.toNat / 4), base64Digit (a.toNat * 16), '=', '=']
  | [a, b] =>
    let n := a.toNat * 256 + b.toNat
    [base64Digit (n / 1024), base64Digit (n / 16), base64Digit (n * 4), '=']
  | a :: b :: c :: rest =>
    let n := (a.toNat * 256 + b.toNat) * 256 + c.toNat
    base64Digit (n / 262144) :: base64Digit (n / 4096) :: base64Digit (n / 64) :: base64Digit n ::
      base64 rest

/-- `str(value)`. -/
def JsonValue.str : JsonValue → String
  | .text value => value
  | .id value => toString value
  | .bytes value => .ofList (base64 value)
  | .mapping value => "\x7b" ++
      ", ".intercalate (value.map fun item => pyRepr item.1 ++ ": " ++ pyRepr item.2) ++ "\x7d"

/-- A mapping with its keys in insertion order, as `json.dumps` and `json.loads` keep them. -/
abbrev JsonObject := List (String × JsonValue)

/-- A row of `jobs`; the key is its `id`. -/
structure Job where
  jobType : String
  status : JobStatus := .pending
  payloadJson : JsonObject
  resultJson : Option JsonObject := none
  errorMessage : Option String := none
  attempts : Nat := 0
  maxAttempts : Int := 3
  idempotencyKey : Option String := none
  availableAt : Time
  claimedBy : Option String := none
  claimedAt : Option Time := none
  createdBy : String
  createdAt : Time
  deriving DecidableEq, Repr

/-- `STALE_RUNNING_THRESHOLD_SECONDS`. -/
def staleRunningThreshold : Time := 120000000

/-- `BACKOFF_BASE_SECONDS * 2 ** (attempts - 1)`, where `2 ** -1` is a half. -/
def backoff (attempts : Nat) : Time := 5000000 * 2 ^ attempts / 2

/-- The arguments of `enqueue_job`. -/
structure EnqueueArgs where
  jobType : String
  payloadJson : JsonObject
  actor : String
  idempotencyKey : Option String := none
  maxAttempts : Int := 3
  deriving DecidableEq, Repr

/-- The row that `enqueue_job` adds; the insert reads the clock for `available_at` and for
    `created_at`. -/
def EnqueueArgs.job (args : EnqueueArgs) (availableAt createdAt : Time) : Job where
  jobType := args.jobType
  payloadJson := args.payloadJson
  maxAttempts := args.maxAttempts
  idempotencyKey := args.idempotencyKey
  availableAt := availableAt
  createdBy := args.actor
  createdAt := createdAt

namespace Job

/-- `_candidate_predicate`, with `stale_before = now - STALE_RUNNING_THRESHOLD_SECONDS`. -/
def candidate (now : Time) (job : Job) : Bool :=
  match job.status with
  | .pending => decide (job.availableAt ≤ now)
  | .running => job.claimedAt.any fun claimedAt => decide (claimedAt + staleRunningThreshold ≤ now)
  | .succeeded | .failed => false

/-- The values of the updates that claim a job. -/
def claim (workerId : String) (now : Time) (job : Job) : Job :=
  { job with status := .running, claimedBy := some workerId, claimedAt := some now }

/-- `run_job` before the handler. -/
def attempt (job : Job) : Job := { job with attempts := job.attempts + 1 }

/-- `run_job` after a handler that has returned. -/
def succeed (result : JsonObject) (job : Job) : Job :=
  { job with status := .succeeded, resultJson := some result, errorMessage := none }

/-- `str(exc)[:2000]`. -/
def truncated (message : String) : String := .ofList (message.toList.take 2000)

/-- `run_job` after a handler that has raised. -/
def fail (message : String) (now : Time) (job : Job) : Job :=
  let job := { job with errorMessage := some (truncated message) }
  if job.maxAttempts ≤ job.attempts then { job with status := .failed }
  else { job with status := .pending, availableAt := now + backoff job.attempts }

/-- What `run_job` makes of the row, given what its handler did and the time. -/
def conclude (outcome : Except String JsonObject) (now : Time) (job : Job) : Job :=
  match outcome with
  | .ok result => job.succeed result
  | .error message => job.fail message now

end Job

/-! ## Writing the outcome

The unit of work writes the columns whose attributes have changed since they were loaded,
over whatever the row holds by then. -/

/-- The columns of a row that an update sets. -/
structure JobUpdate where
  status : Option JobStatus := none
  resultJson : Option (Option JsonObject) := none
  errorMessage : Option (Option String) := none
  attempts : Option Nat := none
  availableAt : Option Time := none
  deriving DecidableEq, Repr

namespace JobUpdate

/-- Set the columns of a row. -/
def apply (update : JobUpdate) (row : Job) : Job :=
  { row with
    status := update.status.getD row.status
    resultJson := update.resultJson.getD row.resultJson
    errorMessage := update.errorMessage.getD row.errorMessage
    attempts := update.attempts.getD row.attempts
    availableAt := update.availableAt.getD row.availableAt }

/-- The value of an attribute, if it differs from the one that was loaded. -/
def net {α : Type} [DecidableEq α] (loaded current : α) : Option α :=
  if current = loaded then none else some current

/-- The changes of a job between two states of its object. -/
def between (loaded current : Job) : JobUpdate where
  status := net loaded.status current.status
  resultJson := net loaded.resultJson current.resultJson
  errorMessage := net loaded.errorMessage current.errorMessage
  attempts := net loaded.attempts current.attempts
  availableAt := net loaded.availableAt current.availableAt

/-- The changes of `run_job` on an object that has been expired, whose attributes are read
    from the row when they are first used. An attribute that is set before it has been read
    is written whatever the row holds. -/
def afterExpiry (outcome : Except String JsonObject) (now : Time) (row : Job) : JobUpdate :=
  let update := between row (row.conclude outcome now)
  match outcome with
  | .ok result =>
    { update with
      status := some .succeeded, resultJson := some (some result), errorMessage := some none }
  | .error message => { update with errorMessage := some (some (Job.truncated message)) }

end JobUpdate

end MiniGrc.Jobs
