import MiniGrc.App.Imports

/-!
# Failed attempts

`run_job` catches the exception of a handler in the handler's own session, which
`process_next_job` then commits. So a failed attempt leaves exactly what the handler has
left in the session. Neither of the two registered handlers raises after a write by
itself; but an exception of the environment, after `run_import` has added its row, leaves
the row behind.

## Key results

- `process_next_job_failed_iff`: what a failed attempt leaves
- `process_next_job_failed_query`: a query that fails in `run_import`
- `registered_unchanged`: the registered handlers without such an exception
-/

namespace MiniGrc.JobRuns

open Jobs Connections Imports

variable {ρ : Type}

/-- The two databases agree, but for one row of `jobs`. -/
structure Unchanged (id : Id) (before after : Db ρ) : Prop where
  jobs : ∀ k : Nat, k ≠ id → after.jobs[k]? = before.jobs[k]?
  importJobs : after.importJobs = before.importJobs
  connections : after.connections = before.connections
  auditEvents : after.auditEvents = before.auditEvents
  records : after.records = before.records

/-- The databases agree, but for the row of a job and the audit event of its run. -/
structure OnlyJobAndAudit (id : Id) (before after : Db ρ) : Prop where
  jobs : ∀ k : Nat, k ≠ id → after.jobs[k]? = before.jobs[k]?
  importJobs : after.importJobs = before.importJobs
  connections : after.connections = before.connections
  auditEvents : ∃ event, after.auditEvents = before.auditEvents ++ [event] ∧
    event.entityType = "job" ∧ event.entityId = id ∧ event.action = "run"
  records : after.records = before.records

/-- The session in which `process_next_job` runs the job that it has claimed. -/
def claimedSession (db : Db ρ) (id : Id) (claimed : Job) : Session ρ :=
  .fresh { db with jobs := db.jobs.insert id claimed }

section Outcome

variable (s : Session ρ) (id : Id) (job : Job) (outcome : Except String JsonObject)
  (actor : String) (now : Time)

/-- Recording an outcome changes nothing but the row of the job, and adds the audit event. -/
theorem exists_recordOutcome : ∃ jobs,
    (∀ k : Nat, k ≠ id → jobs[k]? = s.current.jobs[k]?) ∧
    (recordOutcome s id job outcome actor now).1.current = { s.current with
      jobs := jobs
      auditEvents := s.current.auditEvents ++
        [runEvent id (objectAfter s id job.attempt) outcome actor] } := by
  simp only [recordOutcome, Session.audit]
  split
  · exact ⟨_, fun k hk => Table.get_insert_ne (Ne.symm hk), rfl⟩
  · exact ⟨_, fun _ _ => rfl, rfl⟩

end Outcome

variable {handlers : String → Option (JobHandler ρ)} {db : Db ρ} {id : Id} {row : Job}
  {workerId actor message : String} {now concludedAt : Time} {handler : JobHandler ρ}
  {s' : Session ρ}

/-- The outcome that `run_job` records, unless the transaction is broken. -/
def outcomeOf : Except Raised JsonObject → Except String JsonObject
  | .ok result => .ok result
  | .error (.exception message) => .error message
  | .error .brokenTransaction => .error ""

/-- `process_next_job` records the outcome of the handler. -/
theorem processNextJob_of_handler {r : Except Raised JsonObject}
    (hcandidate : candidateOf db now = some (id, row))
    (hhandler : handlers row.jobType = some handler)
    (hrun : handler (claimedSession db id (row.claim workerId now)) row.payloadJson = (s', r))
    (hr : r ≠ .error .brokenTransaction) :
    processNextJob handlers db workerId actor now concludedAt =
      (recordOutcome s' id (row.claim workerId now) (outcomeOf r) actor concludedAt).1.current := by
  have hjob : runJob handlers ((Session.fresh db).setJob id (row.claim workerId now)).commit id
      (row.claim workerId now) actor concludedAt =
      ((recordOutcome s' id (row.claim workerId now) (outcomeOf r) actor concludedAt).1,
        .ok (recordOutcome s' id (row.claim workerId now) (outcomeOf r) actor concludedAt).2) := by
    have htype : (row.claim workerId now).jobType = row.jobType := rfl
    have hsession : ({ ((Session.fresh db).setJob id (row.claim workerId now)).commit with
        rolledBack := false } : Session ρ) = claimedSession db id (row.claim workerId now) := rfl
    simp only [runJob, htype, hhandler]
    rw [hsession, show (row.claim workerId now).payloadJson = row.payloadJson from rfl, hrun]
    -- A handler that raises is recorded as a failure, unless its transaction is broken.
    cases r with
    | ok result => rfl
    | error raised =>
      cases raised with
      | exception message => rfl
      | brokenTransaction => exact absurd rfl hr
  simp only [processNextJob, hcandidate, hjob]
  rfl

/-- After a failed attempt the database differs from the one before only in the job's row
    and the audit event of the run, if and only if the handler has left nothing else in its
    session when it raised. -/
theorem process_next_job_failed_iff (hcandidate : candidateOf db now = some (id, row))
    (hhandler : handlers row.jobType = some handler)
    (hraise : handler (claimedSession db id (row.claim workerId now)) row.payloadJson =
      (s', .error (.exception message))) :
    OnlyJobAndAudit id db (processNextJob handlers db workerId actor now concludedAt) ↔
      Unchanged id db s'.current := by
  obtain ⟨jobs, hjobs, hcurrent⟩ := exists_recordOutcome s' id (row.claim workerId now)
    (outcomeOf (.error (.exception message))) actor concludedAt
  rw [processNextJob_of_handler hcandidate hhandler hraise
    (fun hbroken => nomatch Except.error.inj hbroken), hcurrent]
  constructor
  · intro h
    obtain ⟨event, haudit, -⟩ := h.auditEvents
    refine ⟨fun k hk => ?_, h.importJobs, h.connections, ?_, h.records⟩
    · rw [← h.jobs k hk, ← hjobs k hk]
    · exact (List.append_inj' haudit rfl).1
  · intro h
    refine ⟨fun k hk => ?_, h.importJobs, h.connections, ?_, h.records⟩
    · rw [← h.jobs k hk, ← hjobs k hk]
    · exact ⟨_, by rw [h.auditEvents], rfl, rfl, rfl⟩

/-! ## The registered handlers -/

/-- Without an exception of the environment an import ends normally. -/
theorem runImport_returns (imps : Importers ρ) (env : ImportEnv) (s : Session ρ)
    (args : ImportArgs) (maxBytes : Nat) :
    ∃ x, (runImport imps env none s args maxBytes).2 = .ok x := by
  simp only [runImport, reject, recordImport, importRows, rejectAfterRollback, reduceCtorEq,
    if_false]
  split
  · exact ⟨_, rfl⟩
  split
  · exact ⟨_, rfl⟩
  split
  · exact ⟨_, rfl⟩
  split
  · exact ⟨_, rfl⟩
  split
  · exact ⟨_, rfl⟩
  · exact ⟨_, rfl⟩

/-- A registered handler that raises without an exception of the environment has written
    nothing. -/
theorem registered_unchanged {imps : Importers ρ} {env : ImportEnv}
    {probe : ExternalConnection → Option String} {jobType : String} {payload : JsonObject}
    {s : Session ρ} (hhandler : registered imps env none probe jobType = some handler)
    (hraise : handler s payload = (s', .error (.exception message))) : s' = s := by
  unfold registered at hhandler
  split at hhandler
  · cases hhandler
    simp only [runImportJobHandler] at hraise
    split at hraise
    · cases hraise
    · exact (Prod.mk.inj hraise).1.symm
    · next args _ =>
      obtain ⟨x, hx⟩ := runImport_returns imps env s args defaultMaxBytes
      split at hraise
      · next heq =>
        rw [heq] at hx
        cases hx
      · cases hraise
  · split at hhandler
    · cases hhandler
      simp only [connectionTestJobHandler] at hraise
      split at hraise
      · exact (Prod.mk.inj hraise).1.symm
      · split at hraise
        · exact (Prod.mk.inj hraise).1.symm
        · cases hraise
    · cases hhandler

/-- `title`, `Leak`: a risk register with one row. -/
def leakCsv : List UInt8 := [0x74, 0x69, 0x74, 0x6c, 0x65, 0x0a, 0x4c, 0x65, 0x61, 0x6b, 0x0a]

/-- The risk register's importer on that file and on the empty one. -/
def riskImporters : Importers String where
  get name :=
    if name = "risk_register_csv" then
      some ⟨"risk", fun _ rawBytes _ =>
        if rawBytes = leakCsv then .ok ["Leak"]
        else .error "Missing required column(s): title"⟩
    else none
  computeChecksum rawBytes :=
    if rawBytes = leakCsv then "8bd8692b591db28e65dc517ff563fb9d17118d7312a89ba49df35d50a106ea7a"
    else "e3b0c44298fc1c149afbf4c8996fb92427ae41e4649b934ca495991b7852b855"

/-- An import of the risk register by the CLI. -/
def leakImport : ImportArgs := ⟨"risk_register_csv", leakCsv, "risks.csv", [], "admin", .cli⟩

/-- The rows of an import get the ids from 20 on. -/
def leakEnv : ImportEnv := ⟨10, 11, fun k => 20 + k, 5, 5, 6⟩

/-- A job that imports the risk register is waiting. -/
def leakQueued : Db String where
  jobs := (∅ : Table Job).insert 7
    (EnqueueArgs.job ⟨"run_import", payloadOf leakImport, "admin", none, 3⟩ 0 0)
  importJobs := ∅
  connections := ∅
  auditEvents := []
  records := ∅

/-- The clock fails before the import has done anything. -/
theorem process_next_job_failed_clock :
    OnlyJobAndAudit 7 leakQueued (processNextJob
      (registered riskImporters leakEnv (some .arguments) fun _ => none) leakQueued "w" "worker"
        1 2) :=
  (process_next_job_failed_iff rfl rfl rfl).2
    ⟨fun _ hk => Table.get_insert_ne (Ne.symm hk), rfl, rfl, rfl, rfl⟩

/-- The query for duplicates fails: the attempt leaves the row of its import job. -/
theorem process_next_job_failed_query :
    ¬ OnlyJobAndAudit 7 leakQueued (processNextJob
      (registered riskImporters leakEnv (some .duplicateQuery) fun _ => none) leakQueued "w"
        "worker" 1 2) := by
  intro hall
  have hleft : (processNextJob (registered riskImporters leakEnv (some .duplicateQuery)
      fun _ => none) leakQueued "w" "worker" 1 2).importJobs.toList.length = 1 := rfl
  rw [hall.importJobs] at hleft
  cases hleft

end MiniGrc.JobRuns
