import MiniGrc.App.Imports
import MiniGrc.ForStd.OpenRows

/-!
# Imports from several sessions

`run_import` cut into its statements, so that the calls of any number of sessions (the web
application, the CLI, workers on the watched directory) interleave, each call in a
transaction of its own. A call goes through

    idle → validating → importing → returned → idle

and its caller commits at the end. No other session sees the row of an import, or the
records that the importer adds, before that. A session may roll back or die at any point.

What the importer makes of the file is left to the environment: its rows, or the text of
its exception, which includes those of the flush after it. No caller of `run_import` gives
it another `max_bytes` than the default.
-/

namespace MiniGrc.ConcurrentImports

open JobRuns Imports

variable {ι ρ : Type}

/-- Where a session stands in `run_import`. -/
inductive Pc
  | idle
  /-- the new row is flushed; the look-up of duplicates is next -/
  | validating (env : ImportEnv) (args : ImportArgs)
  /-- the importer is next; `job` is the object of the row -/
  | importing (env : ImportEnv) (job : ImportJob) (args : ImportArgs)
  /-- `run_import` has returned its job; the caller's commit is next -/
  | returned (args : ImportArgs) (id : Id) (job : ImportJob)

/-- The rows and the sessions; a record is kept with the import job that has added it. -/
structure State (ι ρ : Type) where
  importJobs : OpenRows ι ImportJob
  records : OpenRows ι (Id × ρ)
  pc : ι → Pc

/-- The steps of the system. -/
inductive Label (ι ρ : Type)
  /-- session `i` calls `run_import`, which adds its row -/
  | call (i : ι) (env : ImportEnv) (args : ImportArgs)
  /-- session `i` looks for a duplicate, and checks the importer's name and the encoding -/
  | lookUp (i : ι)
  /-- session `i`'s importer returns its rows or raises -/
  | importer (i : ι) (outcome : Except String (List ρ))
  /-- session `i` commits -/
  | commit (i : ι)
  /-- session `i` rolls back, or dies, at any point -/
  | rollback (i : ι)

/-- The row of a call when duplicates are looked up. -/
def checkedJob (imps : Importers ρ) (env : ImportEnv) (args : ImportArgs) : ImportJob :=
  { startedJob env args with checksumSha256 := imps.computeChecksum args.rawBytes }

namespace State

/-- No session has done anything yet. -/
def quiescent : State ι ρ where
  importJobs := .closed ∅
  records := .closed ∅
  pc _ := .idle

variable [DecidableEq ι] (s : State ι ρ) (i : ι)

/-- Session `i` writes its import job and goes on. -/
def put (id : Id) (job : ImportJob) (pc : Pc) : State ι ρ :=
  { s with importJobs := s.importJobs.write i id job, pc := Function.update s.pc i pc }

/-- `run_import` of session `i` returns its import job. -/
def giveBack (args : ImportArgs) (id : Id) (job : ImportJob) : State ι ρ :=
  s.put i id job (.returned args id job)

/-- Session `i` adds the rows of an importer for a job, under new ids. -/
def addRecords (id : Id) (recordId : Nat → Id) : List ρ → OpenRows ι (Id × ρ) → OpenRows ι (Id × ρ)
  | [], records => records
  | row :: rows, records =>
    addRecords id (fun n => recordId (n + 1)) rows (records.write i (recordId 0) (id, row))

/-- The importer has returned. -/
def complete (env : ImportEnv) (args : ImportArgs) (job : ImportJob) (rows : List ρ) :
    State ι ρ :=
  { s.giveBack i args env.jobId (completedJob env job (.ofRows rows)) with
    records := addRecords i env.jobId env.recordId rows s.records }

/-- Commit session `i`'s transaction. -/
def commit : State ι ρ where
  importJobs := s.importJobs.commit i
  records := s.records.commit i
  pc := Function.update s.pc i .idle

/-- Roll session `i`'s transaction back; whatever it was doing is given up. -/
def rollback : State ι ρ where
  importJobs := s.importJobs.rollback i
  records := s.records.rollback i
  pc := Function.update s.pc i .idle

end State

variable [DecidableEq ι] [Fintype ι]

/-- `run_import` from the look-up of duplicates to the call of the importer. -/
def lookUp (imps : Importers ρ) (s : State ι ρ) (i : ι) (env : ImportEnv) (args : ImportArgs) :
    State ι ρ :=
  let job := checkedJob imps env args
  match duplicateOf (s.importJobs.visible i) env.jobId job with
  | some (duplicateId, _) => s.giveBack i args env.jobId (skippedJob env job duplicateId)
  | none =>
    match imps.get args.importerName with
    | none =>
      s.giveBack i args env.jobId (rejectedJob env job
        s!"Unknown importer {Char.ofNat 39}{args.importerName}{Char.ofNat 39}")
    | some importer =>
      let job := { job with entityType := importer.entityType }
      if !isUtf8 args.rawBytes then
        s.giveBack i args env.jobId (rejectedJob env job "File is not valid UTF-8 text.")
      else
        s.put i env.jobId { job with status := .importing }
          (.importing env { job with status := .importing } args)

/-- One step of the system; `none` when a session is not at the step or an id is in use. -/
def step (imps : Importers ρ) (s : State ι ρ) : Label ι ρ → Option (State ι ρ)
  | .call i env args =>
    match s.pc i with
    | .idle =>
      if ¬ s.importJobs.Unused env.jobId then none
      else if defaultMaxBytes < args.rawBytes.length then
        some (s.giveBack i args env.jobId (rejectedJob env (startedJob env args)
          s!"File exceeds the maximum size of {defaultMaxBytes / (1024 * 1024)} MB."))
      else some (s.put i env.jobId (startedJob env args) (.validating env args))
    | _ => none
  | .lookUp i =>
    match s.pc i with
    | .validating env args => some (lookUp imps s i env args)
    | _ => none
  | .importer i outcome =>
    match s.pc i, outcome with
    | .importing env job args, .ok rows =>
      if ∀ n < rows.length, s.records.Unused (env.recordId n) then
        some (s.complete i env args job rows)
      else none
    | .importing env _ args, .error message =>
      if s.importJobs.Unused env.rejectedId then
        some ((s.rollback i).giveBack i args env.rejectedId { checkedJob imps env args with
          status := .rejected, validationErrorsJson := some [Jobs.Job.truncated message]
          completedAt := some env.completedAt })
      else none
    | _, _ => none
  | .commit i =>
    match s.pc i with
    | .returned .. => some (s.commit i)
    | _ => none
  | .rollback i => some (s.rollback i)

end MiniGrc.ConcurrentImports
