import MiniGrc.ForStd.Counting
import MiniGrc.App.Imports

/-!
# The worker

`run_forever` of `app/worker.py`, with the handlers that `_register_handlers` registers: a turn
of its loop is `process_next_job`, and between two turns other processes commit. The watched
directory is in `App.ImportDirectory`; the sleeping, the signals and the logs are left out, and
so are exceptions of the environment in a handler.
-/

namespace MiniGrc.Worker

open Jobs JobRuns Connections Imports

variable {ρ : Type}

/-- What happens next. -/
inductive Label (ρ : Type)
  /-- another process commits -/
  | commit (db : Db ρ)
  /-- a turn of the loop: what a handler finds outside, and the clock when the job is claimed
      and when its outcome is recorded -/
  | turn (env : ImportEnv) (probe : ExternalConnection → Option String) (now concludedAt : Time)

/-- A step of the database. -/
def step (imps : Importers ρ) (workerId : String) (db : Db ρ) : Label ρ → Option (Db ρ)
  | .commit db' => some db'
  | .turn env probe now concludedAt =>
    some (processNextJob (registered imps env none probe) db workerId "worker" now concludedAt)

end MiniGrc.Worker
