import MiniGrc.App.Jobs
import MiniGrc.ForStd.OpenRows

/-!
# The job queue from several workers

`process_next_job`, and the `claim_specific_job` and `run_job` of an inline caller, cut
into their statements, so that those of any number of sessions interleave. A worker goes
through

    idle → selecting → updating → claimed → running → finished → idle

and commits after `claimed` and at the end; an inline caller, which enters at `claimed`,
commits at the end only. The handler runs between `start` and `finish`; it may roll its
session back, and a session may roll back or die at any point: that is also what happens
when `run_job` itself raises, because the handler has left a failed transaction, and when a
commit fails.

The outcome is written by a single update of the changed columns. A handler that flushes
writes `attempts` earlier, and so locks the row; this is left out, since a lock only makes
other sessions wait. Only the sessions' claims know which worker has made them: the id that
`claimed_by` records need not be unique (every inline caller is `inline`).
-/

namespace MiniGrc.Jobs

variable {ι : Type}

/-- What a statement does to a job, for the history of the job. -/
inductive Entry (ι : Type)
  /-- session `i` claims the job: `claimed_at = claimedAt` -/
  | claimed (i : ι) (claimedAt : Time)
  /-- the job's status is set to another value -/
  | changed (status : JobStatus)
  deriving DecidableEq, Repr

/-- Where a session stands. -/
inductive Pc
  | idle
  /-- `claim_job` has read the clock -/
  | selecting (workerId : String) (now : Time)
  /-- `claim_job` has found a candidate -/
  | updating (workerId : String) (now : Time) (id : Id)
  /-- the session has claimed the job; `job` is the object it has loaded -/
  | claimed (id : Id) (job : Job)
  /-- the handler runs; the object is expired by a rollback -/
  | running (id : Id) (job : Option Job)
  /-- the outcome of the run waits for the flush -/
  | finished (id : Id) (update : JobUpdate)
  deriving DecidableEq, Repr

/-- The job that a session works on. -/
def Pc.job : Pc → Option Id
  | .idle | .selecting .. | .updating .. => none
  | .claimed id _ | .running id _ | .finished id _ => some id

/-- A session: what its open transaction has done to jobs, where it stands, and the jobs
    whose handlers it has started since it last committed. -/
structure Session (ι : Type) where
  ownLog : List (Id × Entry ι) := []
  pc : Pc := .idle
  begun : List Id := []

/-- The jobs and the sessions. -/
structure State (ι : Type) where
  rows : OpenRows ι Job
  /-- what the committed transactions have done to jobs -/
  log : List (Id × Entry ι)
  /-- how often the handler of a job has been started -/
  starts : Id → Nat
  session : ι → Session ι

/-- The steps of the system. -/
inductive Label (ι : Type)
  /-- session `i` calls `enqueue_job` -/
  | enqueue (i : ι) (id : Id) (args : EnqueueArgs) (availableAt createdAt : Time)
  /-- session `i` calls `claim_job`, which reads the clock -/
  | poll (i : ι) (workerId : String) (now : Time)
  /-- session `i`'s `claim_job` selects its candidate -/
  | select (i : ι) (candidate : Option Id)
  /-- session `i`'s `_try_claim` -/
  | update (i : ι)
  /-- session `i` calls `claim_specific_job` -/
  | claimSpecific (i : ι) (workerId : String) (id : Id) (now : Time)
  /-- session `i` calls `run_job`, which starts the handler -/
  | start (i : ι)
  /-- the handler rolls session `i` back -/
  | handlerRollback (i : ι)
  /-- the handler returns or raises -/
  | finish (i : ι) (outcome : Except String JsonObject) (now : Time)
  /-- session `i` writes the outcome -/
  | flush (i : ι)
  /-- session `i` commits -/
  | commit (i : ι)
  /-- session `i` rolls back, or dies, at any point -/
  | rollback (i : ι)
  deriving DecidableEq

/-- What a history says about a job. -/
def ofJob (log : List (Id × Entry ι)) (id : Id) : List (Entry ι) :=
  (log.filter fun x => x.1 = id).map Prod.snd

namespace State

/-- No session has done anything yet. -/
def quiescent (jobs : Table Job) : State ι where
  rows := .closed jobs
  log := []
  starts _ := 0
  session _ := {}

variable (s : State ι) (i : ι) (id : Id)

/-- The committed row of a job. -/
def job : Option Job := s.rows.committed[id]?

/-- What session `i` sees of a job's history. -/
def history : List (Entry ι) := ofJob (s.log ++ (s.session i).ownLog) id

/-- The candidates that session `i` sees. -/
def candidates (now : Time) : List (Id × Job) :=
  (s.rows.visible i).toList.filter fun x => x.2.candidate now

/-- A job may be selected: no candidate has been created before it. -/
def selectable (now : Time) : Bool :=
  (s.candidates i now).any fun x =>
    x.1 = id && (s.candidates i now).all fun y => decide (x.2.createdAt ≤ y.2.createdAt)

/-- A job with the key is in the table. -/
def hasKey (jobs : Table Job) (key : Option String) : Bool :=
  key.isSome && jobs.toList.any fun x => x.2.idempotencyKey = key

/-- No row has the id, no session works on a job with it, and none has been run. -/
def Fresh : Prop :=
  (s.rows.committed[id]? = none ∧ s.starts id = 0) ∧
    ∀ j, (s.rows.own j)[id]? = none ∧ (s.session j).pc.job ≠ some id

instance [Fintype ι] : Decidable (s.Fresh id) :=
  inferInstanceAs (Decidable (_ ∧ ∀ j, _ ∧ (s.session j).pc.job ≠ some id))

variable [DecidableEq ι]

/-- Replace session `i`. -/
def setSession (t : Session ι) : State ι :=
  { s with session := Function.update s.session i t }

/-- Move session `i` on. -/
def setPc (pc : Pc) : State ι := s.setSession i { s.session i with pc := pc }

/-- Add a job. -/
def insert (job : Job) : State ι := { s with rows := s.rows.write i id job }

/-- The update that claims a job, whose row is then loaded. -/
def claim (job : Job) (now : Time) : State ι :=
  { s.setSession i { s.session i with
      ownLog := (s.session i).ownLog ++ [(id, .claimed i now)], pc := .claimed id job } with
    rows := s.rows.write i id job }

/-- Start the handler. -/
def start (job : Job) : State ι :=
  { s.setSession i { s.session i with
      pc := .running id (some job), begun := (s.session i).begun ++ [id] } with
    starts := Function.update s.starts id (s.starts id + 1) }

/-- The handler rolls its session back. -/
def handlerRollback : State ι :=
  { s.setSession i { s.session i with ownLog := [], pc := .running id none } with
    rows := s.rows.rollback i }

/-- The entry for an update that turns `row` into `row'`. -/
def changeOf (row row' : Job) : List (Id × Entry ι) :=
  if row'.status = row.status then [] else [(id, .changed row'.status)]

/-- Write the outcome of a run over the row. -/
def record (row row' : Job) : State ι :=
  { s.setSession i { s.session i with
      ownLog := (s.session i).ownLog ++ changeOf id row row', pc := .idle } with
    rows := s.rows.write i id row' }

/-- Commit session `i`'s transaction. -/
def commit : State ι :=
  { s.setSession i { s.session i with ownLog := [], begun := [] } with
    rows := s.rows.commit i, log := s.log ++ (s.session i).ownLog }

/-- Roll session `i`'s transaction back; whatever it was doing is given up. -/
def rollback : State ι := { s.setSession i {} with rows := s.rows.rollback i }

end State

variable [DecidableEq ι] [Fintype ι]

/-- One step of the system; `none` when a session is not at the step or has to wait. -/
def step (s : State ι) : Label ι → Option (State ι)
  | .enqueue i id args availableAt createdAt =>
    if (s.session i).pc ≠ .idle then none
    else if State.hasKey (s.rows.visible i) args.idempotencyKey then some s
    -- an insert waits for the transaction that has inserted the same key
    else if ∃ j, j ≠ i ∧ State.hasKey (s.rows.own j) args.idempotencyKey then none
    else if s.Fresh id then some (s.insert i id (args.job availableAt createdAt))
    else none
  | .poll i workerId now =>
    match (s.session i).pc with
    | .idle => some (s.setPc i (.selecting workerId now))
    | _ => none
  | .select i candidate =>
    match (s.session i).pc, candidate with
    | .selecting workerId now, some id =>
      if s.selectable i id now then some (s.setPc i (.updating workerId now id)) else none
    | .selecting _ now, none =>
      if (s.candidates i now).isEmpty then some (s.setPc i .idle) else none
    | _, _ => none
  | .update i =>
    match (s.session i).pc with
    | .updating workerId now id =>
      if s.rows.Blocked i id then none
      else match s.rows.row i id with
        | some row =>
          if row.candidate now then some (s.claim i id (row.claim workerId now) now)
          else some (s.setPc i .idle)
        | none => some (s.setPc i .idle)
    | _ => none
  | .claimSpecific i workerId id now =>
    if (s.session i).pc ≠ .idle ∨ s.rows.Blocked i id then none
    else match s.rows.row i id with
      | some row =>
        if row.status = .pending then some (s.claim i id (row.claim workerId now) now)
        else some s
      | none => some s
  | .start i =>
    match (s.session i).pc with
    | .claimed id job => some (s.start i id job)
    | _ => none
  | .handlerRollback i =>
    match (s.session i).pc with
    | .running id _ => some (s.handlerRollback i id)
    | _ => none
  | .finish i outcome now =>
    match (s.session i).pc with
    | .running id (some job) =>
      some (s.setPc i (.finished id (.between job (job.attempt.conclude outcome now))))
    | .running id none =>
      match s.rows.row i id with
      | some row => some (s.setPc i (.finished id (.afterExpiry outcome now row)))
      -- the rollback has taken the row back, and nothing of the object is written
      | none => some (s.setPc i .idle)
    | _ => none
  | .flush i =>
    match (s.session i).pc with
    | .finished id update =>
      if s.rows.Blocked i id then none
      else (s.rows.row i id).map fun row => s.record i id row (update.apply row)
    | _ => none
  | .commit i =>
    match (s.session i).pc with
    | .idle | .claimed .. => some (s.commit i)
    | _ => none
  | .rollback i => some (s.rollback i)

end MiniGrc.Jobs
