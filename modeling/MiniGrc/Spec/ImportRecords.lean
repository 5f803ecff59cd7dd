import MiniGrc.Spec.JobAttempts

/-!
# The records of an inline import

`enqueue_and_run_import` works in its caller's transaction. When the importer raises,
`run_import` rolls that transaction back: with it go the caller's pending rows, the job
that has just been enqueued and its audit event. In every other case the caller's commit
keeps what it should.

## Key results

- `enqueue_and_run_import_iff`: when the records are kept
- `enqueue_and_run_import_emptyFile`: an import of an empty file
-/

namespace MiniGrc.Imports

open JobRuns Connections
open Jobs (Job EnqueueArgs JobUpdate JsonObject JsonValue)

variable {ρ : Type}

/-! ## Adding the rows of an importer -/

theorem get_addRecords_ne {recordId : Nat → Id} {rows : List ρ} {records : Table ρ} {k : Nat}
    (h : ∀ n, n < rows.length → recordId n ≠ k) :
    (addRecords recordId rows records)[k]? = records[k]? := by
  induction rows generalizing recordId records with
  | nil => rfl
  | cons row rows ih =>
    rw [addRecords, ih fun n hn => h (n + 1) (Nat.succ_lt_succ hn)]
    exact Table.get_insert_ne (h 0 (Nat.succ_pos _))

theorem get_addRecords {recordId : Nat → Id} (hinj : Function.Injective recordId) {rows : List ρ}
    {records : Table ρ} {n : Nat} (hn : n < rows.length) :
    (addRecords recordId rows records)[recordId n]? = some rows[n] := by
  induction rows generalizing recordId records n with
  | nil => cases hn
  | cons row rows ih =>
    rw [addRecords]
    cases n with
    | zero =>
      rw [get_addRecords_ne fun n _ heq => absurd (hinj heq) (Nat.succ_ne_zero n),
        Table.get_insert, if_pos rfl]
      rfl
    | succ n =>
      have hshift : Function.Injective fun n => recordId (n + 1) := fun a b hab =>
        Nat.succ.inj (hinj hab)
      exact ih hshift (Nat.lt_of_succ_lt_succ hn)

/-! ## What `run_import` does -/

/-- No other completed job has the checksum, the importer and the target text. -/
def NoDuplicate (imps : Importers ρ) (args : ImportArgs) (importJobs : Table ImportJob) : Prop :=
  ∀ (k : Nat) job, importJobs[k]? = some job →
    ¬ (job.checksumSha256 = imps.computeChecksum args.rawBytes ∧
      job.importerName = args.importerName ∧ job.targetJson = args.target ∧
      job.status = .completed)

/-- The file comes to its importer, which raises. -/
def ImporterRaises (imps : Importers ρ) (args : ImportArgs) (db : Db ρ) : Prop :=
  args.rawBytes.length ≤ defaultMaxBytes ∧ NoDuplicate imps args db.importJobs ∧
    isUtf8 args.rawBytes ∧ ∃ importer message, imps.get args.importerName = some importer ∧
      importer.fn db.records args.rawBytes args.target = .error message

/-- `rows` are the rows that an import has created in `records`: the importer's if the job
    is completed and no duplicate, else none. -/
def CreatedBy (imps : Importers ρ) (args : ImportArgs) (records : Table ρ) (job : ImportJob)
    (rows : List ρ) : Prop :=
  job.recordsCreated = rows.length ∧
    if job.status = .completed ∧ job.recordsSkipped = 0 then
      ∃ importer, imps.get args.importerName = some importer ∧
        importer.fn records args.rawBytes args.target = .ok rows
    else rows = []

/-- The session after an import that has not been rolled back: one more import job, with the
    rows that it has created, and one more audit event. -/
structure Imported (imps : Importers ρ) (env : ImportEnv) (args : ImportArgs)
    (s s' : JobRuns.Session ρ) : Prop where
  kept : s'.committed = s.committed ∧ s'.rolledBack = s.rolledBack ∧
    s'.current.jobs = s.current.jobs ∧ s'.current.connections = s.current.connections
  importJobs : ∃ job rows, s'.current.importJobs = s.current.importJobs.insert env.jobId job ∧
    s'.current.records = addRecords env.recordId rows s.current.records ∧
    CreatedBy imps args s.current.records job rows
  auditEvents : ∃ event, s'.current.auditEvents = s.current.auditEvents ++ [event] ∧
    event.entityType = "import_job" ∧ event.entityId = env.jobId

variable {imps : Importers ρ} {env : ImportEnv} {args : ImportArgs} {s s' : JobRuns.Session ρ}

theorem duplicateOf_eq_none_iff {importJobs : Table ImportJob} {id : Id} (job : ImportJob)
    (hfresh : importJobs[id]? = none) (hchecksum : job.checksumSha256 = imps.computeChecksum
      args.rawBytes) (hname : job.importerName = args.importerName)
    (htarget : job.targetJson = args.target) (row : ImportJob) :
    duplicateOf (importJobs.insert id row) id job = none ↔ NoDuplicate imps args importJobs := by
  simp only [duplicateOf, List.find?_eq_none, NoDuplicate, hchecksum, hname, htarget, Prod.forall,
    Std.ExtTreeMap.mem_toList_iff_getElem?_eq_some, Bool.and_eq_true, decide_eq_true_eq, not_and,
    ne_eq, and_imp]
  refine forall_congr' fun k => ?_
  by_cases hk : id = k
  · subst hk
    simp [hfresh]
  · rw [Table.get_insert_ne hk]
    simp [Ne.symm hk]

theorem createdBy_nil {records : Table ρ} {job : ImportJob} (hcreated : job.recordsCreated = 0)
    (h : ¬ (job.status = .completed ∧ job.recordsSkipped = 0)) :
    CreatedBy imps args records job [] := by
  rw [CreatedBy, if_neg h]
  exact ⟨hcreated, rfl⟩

/-- The end of an import, in a session that has its rows already. -/
theorem recordImport_imported {job : ImportJob} {event : AuditEvent} {t : JobRuns.Session ρ}
    (rows : List ρ)
    (hkept : t.committed = s.committed ∧ t.rolledBack = s.rolledBack ∧
      t.current.jobs = s.current.jobs ∧ t.current.connections = s.current.connections ∧
      t.current.auditEvents = s.current.auditEvents)
    (himports : ∀ job, t.current.importJobs.insert env.jobId job =
      s.current.importJobs.insert env.jobId job)
    (hrecords : t.current.records = addRecords env.recordId rows s.current.records)
    (hrows : CreatedBy imps args s.current.records job rows)
    (hevent : event.entityType = "import_job" ∧ event.entityId = env.jobId) :
    ∃ s', recordImport none t env.jobId job event = (s', .ok env.jobId) ∧
      Imported imps env args s s' := by
  obtain ⟨hcommitted, hrolledBack, hjobs, hconnections, haudit⟩ := hkept
  refine ⟨_, rfl, ⟨hcommitted, hrolledBack, hjobs, hconnections⟩, ?_, ?_⟩
  · exact ⟨job, rows, himports job, hrecords, hrows⟩
  · exact ⟨event, congrArg (· ++ [event]) haudit, hevent⟩

/-- Without an exception of the environment, `run_import` keeps its session's work unless the
    importer raises. -/
theorem runImport_imported (env : ImportEnv) (hfresh : s.current.importJobs[env.jobId]? = none)
    (hno : ¬ ImporterRaises imps args s.current) :
    ∃ s', runImport imps env none s args defaultMaxBytes = (s', .ok env.jobId) ∧
      Imported imps env args s s' := by
  simp only [runImport, reject, importRows, reduceCtorEq, if_false]
  split
  · exact recordImport_imported [] ⟨rfl, rfl, rfl, rfl, rfl⟩
      (fun _ => Table.insert_insert) rfl (createdBy_nil rfl fun h => by cases h.1) ⟨rfl, rfl⟩
  next hsize =>
  split
  · exact recordImport_imported [] ⟨rfl, rfl, rfl, rfl, rfl⟩
      (fun _ => Table.insert_insert) rfl (createdBy_nil rfl fun h => by cases h.2) ⟨rfl, rfl⟩
  next hduplicate =>
  split
  · exact recordImport_imported [] ⟨rfl, rfl, rfl, rfl, rfl⟩
      (fun _ => Table.insert_insert) rfl (createdBy_nil rfl fun h => by cases h.1) ⟨rfl, rfl⟩
  next importer himporter =>
  split
  · exact recordImport_imported [] ⟨rfl, rfl, rfl, rfl, rfl⟩
      (fun _ => Table.insert_insert) rfl (createdBy_nil rfl fun h => by cases h.1) ⟨rfl, rfl⟩
  next hutf8 =>
  have hnodup := (duplicateOf_eq_none_iff _ hfresh rfl rfl rfl _).1 hduplicate
  split
  · next message hraise =>
    refine absurd ⟨Nat.not_lt.1 hsize, hnodup, ?_, importer, message, himporter, hraise⟩ hno
    simpa using hutf8
  · next rows hrows =>
    refine recordImport_imported rows ⟨rfl, rfl, rfl, rfl, rfl⟩ (fun job => ?_) rfl
      ⟨rfl, ?_⟩ ⟨rfl, rfl⟩
    · simp [addRows, Session.setImportJob]
    · rw [if_pos ⟨rfl, rfl⟩]
      exact ⟨importer, himporter, hrows⟩

/-- When the importer raises, nothing of the session's work is left. -/
theorem runImport_rolledBack (env : ImportEnv) (hfresh : s.current.importJobs[env.jobId]? = none)
    (hraises : ImporterRaises imps args s.current) :
    ∃ s', runImport imps env none s args defaultMaxBytes = (s', .ok env.rejectedId) ∧
      s'.rolledBack = true ∧ s'.current.jobs = s.committed.jobs ∧
      (s'.current.importJobs[env.rejectedId]?).isSome := by
  obtain ⟨hsize, hnodup, hutf8, importer, message, himporter, hraise⟩ := hraises
  simp only [runImport, reject, importRows, reduceCtorEq, if_false]
  split
  · next h => exact absurd hsize (Nat.not_le.2 h)
  split
  · next hsome =>
    have hnone := (duplicateOf_eq_none_iff { startedJob env args with
      checksumSha256 := imps.computeChecksum args.rawBytes } hfresh rfl rfl rfl
      (startedJob env args)).2 hnodup
    cases hnone.symm.trans hsome
  rw [himporter]
  simp only [hutf8, Bool.not_true, Bool.false_eq_true, if_false]
  split
  · refine ⟨_, rfl, rfl, rfl, ?_⟩
    simp [Session.audit, Session.setImportJob]
  · next rows hrows =>
    cases hraise.symm.trans hrows

/-! ## What the caller's commit keeps -/

/-- `after` is what a caller that sees `before` commits after an inline import that has
    returned an import job: one job more, whose result names the import job, that import
    job, the audit events of both, and the rows that the importer has created; everything
    else is as before. -/
structure RecordsKept (imps : Importers ρ) (env : InlineEnv) (args : ImportArgs)
    (before after : Db ρ) (importId : Id) (importJob : ImportJob) : Prop where
  jobs : ∃ row result, before.jobs[env.newJobId]? = none ∧
    after.jobs = before.jobs.insert env.newJobId row ∧
    row.jobType = "run_import" ∧ row.resultJson = some result ∧
    result.lookup "import_job_id" = some (.id importId)
  importJobs : before.importJobs[importId]? = none ∧
    after.importJobs = before.importJobs.insert importId importJob
  auditEvents : ∃ enqueued imported ran,
    after.auditEvents = before.auditEvents ++ [enqueued, imported, ran] ∧
    (enqueued.entityType = "job" ∧ enqueued.entityId = env.newJobId ∧
      enqueued.action = "enqueue") ∧
    (imported.entityType = "import_job" ∧ imported.entityId = importId) ∧
    (ran.entityType = "job" ∧ ran.entityId = env.newJobId ∧ ran.action = "run")
  records : ∃ rows : List ρ, CreatedBy imps args before.records importJob rows ∧
    (∀ n (h : n < rows.length), before.records[env.recordId n]? = none ∧
      after.records[env.recordId n]? = some rows[n]) ∧
    ∀ k : Nat, (∀ n, n < rows.length → env.recordId n ≠ k) →
      after.records[k]? = before.records[k]?
  connections : after.connections = before.connections

/-- `enqueue_and_run_import` returns an import job, and its caller's commit keeps the
    records. -/
def KeepsRecords (imps : Importers ρ) (probe : ExternalConnection → Option String)
    (env : InlineEnv) (s : JobRuns.Session ρ) (args : ImportArgs) : Prop :=
  ∃ s' importId importJob,
    enqueueAndRunImport (registered imps env.toImportEnv none probe) env s args =
      (s', .ok (some (importId, importJob))) ∧
    RecordsKept imps env args s.current s'.commit.committed importId importJob

theorem argsOf_payloadOf (args : ImportArgs) : argsOf (payloadOf args) = .ok args := by
  obtain ⟨importerName, rawBytes, filename, target, actor, source⟩ := args
  cases source <;> rfl

/-- The arguments of the job that is enqueued. -/
def enqueueArgs (args : ImportArgs) : EnqueueArgs where
  jobType := "run_import"
  payloadJson := payloadOf args
  actor := args.actor

/-- The session in which the import runs, and the job's object there. -/
def inlineSession (env : InlineEnv) (s : JobRuns.Session ρ) (args : ImportArgs) :
    JobRuns.Session ρ × Job :=
  let claimed := ((enqueueArgs args).job env.availableAt env.enqueuedAt).claim "inline"
    env.claimedAt
  ({ (((s.setJob env.newJobId claimed).audit (enqueueEvent env.newJobId (enqueueArgs args)))) with
      rolledBack := false }, claimed)

/-- The end of the job of an import. -/
def concluded (env : InlineEnv) (s : JobRuns.Session ρ) (job : Job) (args : ImportArgs)
    (importId : Id) : JobRuns.Session ρ × Job :=
  let status := (s.current.importJobs[importId]?).elim "" fun job => statusText job.status
  recordOutcome s env.newJobId job
    (.ok [("import_job_id", .id importId), ("status", .text status)]) args.actor env.concludedAt

/-- What `enqueue_and_run_import` comes down to once its import has returned. -/
theorem enqueueAndRunImport_eq {probe : ExternalConnection → Option String} {env : InlineEnv}
    {importId : Id}
    (hrun : runImport imps env.toImportEnv none (inlineSession env s args).1 args
      defaultMaxBytes = (s', .ok importId)) :
    enqueueAndRunImport (registered imps env.toImportEnv none probe) env s args =
      ((concluded env s' (inlineSession env s args).2 args importId).1,
        .ok (importJobOf (concluded env s' (inlineSession env s args).2 args importId).1
          (concluded env s' (inlineSession env s args).2 args importId).2)) := by
  have henqueue : enqueueJob s env.newJobId (enqueueArgs args) env.availableAt env.enqueuedAt =
      ((s.setJob env.newJobId ((enqueueArgs args).job env.availableAt env.enqueuedAt)).audit
        (enqueueEvent env.newJobId (enqueueArgs args)), env.newJobId) := rfl
  have hclaim : claimSpecificJob
      ((s.setJob env.newJobId ((enqueueArgs args).job env.availableAt env.enqueuedAt)).audit
        (enqueueEvent env.newJobId (enqueueArgs args))) env.newJobId "inline" env.claimedAt =
      ((s.setJob env.newJobId (inlineSession env s args).2).audit
        (enqueueEvent env.newJobId (enqueueArgs args)), some (inlineSession env s args).2) := by
    simp [claimSpecificJob, Session.setJob, Session.audit, inlineSession, EnqueueArgs.job]
  have hhandler : runImportJobHandler imps env.toImportEnv none (inlineSession env s args).1
      (inlineSession env s args).2.payloadJson = (s', .ok [("import_job_id", .id importId),
        ("status", .text ((s'.current.importJobs[importId]?).elim "" fun job =>
          statusText job.status))]) := by
    have hargs : argsOf (inlineSession env s args).2.payloadJson = .ok args :=
      argsOf_payloadOf args
    simp only [runImportJobHandler, hargs, hrun]
  have hrunJob : runJob (registered imps env.toImportEnv none probe)
      ((s.setJob env.newJobId (inlineSession env s args).2).audit
        (enqueueEvent env.newJobId (enqueueArgs args))) env.newJobId (inlineSession env s args).2
      args.actor env.concludedAt =
      ((concluded env s' (inlineSession env s args).2 args importId).1,
        .ok (concluded env s' (inlineSession env s args).2 args importId).2) := by
    have htype : registered imps env.toImportEnv none probe (inlineSession env s args).2.jobType =
      some (runImportJobHandler imps env.toImportEnv none) := rfl
    have hsession : { (s.setJob env.newJobId (inlineSession env s args).2).audit
        (enqueueEvent env.newJobId (enqueueArgs args)) with rolledBack := false } =
      (inlineSession env s args).1 := rfl
    simp only [runJob, htype, hsession, hhandler, concluded]
  have hargs : ({ jobType := "run_import", payloadJson := payloadOf args, actor := args.actor } :
    EnqueueArgs) = enqueueArgs args := rfl
  simp only [enqueueAndRunImport, hargs, henqueue, hclaim, hrunJob]

/-- The ids that the environment gives are new, in the session and among the committed
    rows. -/
structure FreshIds (env : InlineEnv) (s : JobRuns.Session ρ) : Prop where
  job : s.current.jobs[env.newJobId]? = none ∧ s.committed.jobs[env.newJobId]? = none
  importJob : s.current.importJobs[env.jobId]? = none
  record_injective : Function.Injective env.recordId
  record : ∀ n, s.current.records[env.recordId n]? = none

theorem net_getD {α : Type} [DecidableEq α] (loaded current : α) :
    (JobUpdate.net loaded current).getD loaded = current := by
  unfold JobUpdate.net
  split
  · next h => exact h.symm
  · rfl

/-- The outcome of a run in a session that has not been rolled back. -/
theorem recordOutcome_succeed {id : Id} {job : Job} {result : JsonObject} {actor : String}
    {now : Time} (hrolled : s.rolledBack = false) (hrow : s.current.jobs[id]? = some job) :
    recordOutcome s id job (.ok result) actor now =
      ((s.setJob id (job.attempt.succeed result)).audit
        (runEvent id job.attempt (.ok result) actor), job.attempt.succeed result) := by
  have happly : (JobUpdate.between job (job.attempt.succeed result)).apply job =
      job.attempt.succeed result := by
    simp [JobUpdate.apply, JobUpdate.between, net_getD, Job.succeed, Job.attempt]
  simp [recordOutcome, objectAfter, outcomeUpdate, hrolled, hrow, Job.conclude, happly]

theorem importJobOf_succeed {importId : Id} {status : JsonValue} {job : Job} {row : ImportJob}
    (hrow : s.current.importJobs[importId]? = some row) :
    importJobOf s (job.succeed [("import_job_id", .id importId), ("status", status)]) =
      some (importId, row) := by
  simp [importJobOf, Job.succeed, hrow]

theorem FreshIds.keepsRecords {env : InlineEnv} {probe : ExternalConnection → Option String}
    (hfresh : FreshIds env s) (hno : ¬ ImporterRaises imps args s.current) :
    KeepsRecords imps probe env s args := by
  obtain ⟨s', hrun, himported⟩ := runImport_imported env.toImportEnv
    (s := (inlineSession env s args).1) hfresh.importJob hno
  obtain ⟨job, rows, himportJobs, hrecords, hcreated⟩ := himported.importJobs
  obtain ⟨event, haudit, hevent⟩ := himported.auditEvents
  have hjobs : s'.current.jobs = s.current.jobs.insert env.newJobId
    (inlineSession env s args).2 := himported.kept.2.2.1
  have hrow : s'.current.jobs[env.newJobId]? = some (inlineSession env s args).2 := by
    rw [hjobs, Table.get_insert, if_pos rfl]
  have hfound : s'.current.importJobs[env.jobId]? = some job := by
    rw [himportJobs, Table.get_insert, if_pos rfl]
  have heq : enqueueAndRunImport (registered imps env.toImportEnv none probe) env s args = _ :=
    enqueueAndRunImport_eq hrun
  simp only [concluded, recordOutcome_succeed himported.kept.2.1 hrow] at heq
  rw [importJobOf_succeed (by exact hfound)] at heq
  have hwritten : ∀ row, s'.current.jobs.insert env.newJobId row =
      s.current.jobs.insert env.newJobId row := fun row => by
    rw [hjobs]
    exact Table.insert_insert
  have hevents : ∀ ran, s'.current.auditEvents ++ [ran] = s.current.auditEvents ++
      [enqueueEvent env.newJobId (enqueueArgs args), event, ran] := fun ran => by
    rw [haudit]
    simp [inlineSession, Session.audit, Session.setJob]
  refine ⟨_, env.jobId, job, heq, ⟨?_, ⟨hfresh.importJob, himportJobs⟩, ?_,
    ⟨rows, hcreated, fun n hn => ⟨hfresh.record n, ?_⟩, fun k hk => ?_⟩, himported.kept.2.2.2⟩⟩
  · exact ⟨_, _, hfresh.job.1, hwritten _, rfl, rfl, rfl⟩
  · exact ⟨_, event, _, hevents _, ⟨rfl, rfl, rfl⟩, hevent, rfl, rfl, rfl⟩
  · simp only [Session.commit, Session.audit, Session.setJob, hrecords]
    exact get_addRecords hfresh.record_injective hn
  · simp only [Session.commit, Session.audit, Session.setJob, hrecords]
    exact get_addRecords_ne hk

/-- After a rollback there is no row of the job for its outcome. -/
theorem FreshIds.not_keepsRecords {env : InlineEnv} {probe : ExternalConnection → Option String}
    (hfresh : FreshIds env s) (hraises : ImporterRaises imps args s.current) :
    ¬ KeepsRecords imps probe env s args := by
  rintro ⟨s'', importId, importJob, heq, hkept⟩
  obtain ⟨s', hrun, -, hjobs, -⟩ := runImport_rolledBack env.toImportEnv
    (s := (inlineSession env s args).1) hfresh.importJob hraises
  have hgone : s'.current.jobs[env.newJobId]? = none := by
    rw [hjobs]
    exact hfresh.job.2
  rw [enqueueAndRunImport_eq hrun, Prod.mk.injEq] at heq
  obtain ⟨row, result, -, hafter, -⟩ := hkept.jobs
  have hlost : s''.commit.committed.jobs[env.newJobId]? = none := by
    rw [← heq.1]
    simp only [Session.commit, concluded, recordOutcome, hgone, Session.audit]
  rw [hafter, Table.get_insert, if_pos rfl] at hlost
  cases hlost

/-- An inline import keeps the records if and only if its file does not come to an importer
    that raises. -/
theorem enqueue_and_run_import_iff {env : InlineEnv} (probe : ExternalConnection → Option String)
    (hfresh : FreshIds env s) :
    KeepsRecords imps probe env s args ↔ ¬ ImporterRaises imps args s.current :=
  ⟨fun hkept hraises => hfresh.not_keepsRecords hraises hkept, hfresh.keepsRecords⟩

/-- The database before any import. -/
def noImports : Db String := { leakQueued with jobs := ∅ }

/-- A session with one pending row. -/
def pendingSession : JobRuns.Session String where
  committed := noImports
  current := { noImports with records := noImports.records.insert 3 "Phishing" }

/-- New ids, and the clock of an import that is run inline. -/
def leakInline : InlineEnv :=
  { leakEnv with
    newJobId := 7, availableAt := 0, enqueuedAt := 1, claimedAt := 2, concludedAt := 7 }

theorem freshIds_leakInline : FreshIds leakInline pendingSession where
  job := ⟨rfl, rfl⟩
  importJob := rfl
  record_injective := fun _ _ h => Nat.add_left_cancel h
  record := fun n => Table.get_insert_ne (by simp only [leakInline, leakEnv]; omega)

/-- The importer accepts the file. -/
theorem enqueue_and_run_import_leak :
    KeepsRecords riskImporters (fun _ => none) leakInline pendingSession leakImport := by
  refine (enqueue_and_run_import_iff _ freshIds_leakInline).2 ?_
  rintro ⟨-, -, -, importer, message, hget, hraise⟩
  cases hget
  cases hraise

/-- The importer raises on the empty file: the caller's row is lost. -/
theorem enqueue_and_run_import_emptyFile :
    (enqueueAndRunImport (registered riskImporters leakInline.toImportEnv none fun _ => none)
      leakInline pendingSession
      { leakImport with rawBytes := [] }).1.commit.committed.records[3]? = none ∧
    ¬ KeepsRecords riskImporters (fun _ => none) leakInline pendingSession
      { leakImport with rawBytes := [] } := by
  refine ⟨rfl, freshIds_leakInline.not_keepsRecords
    ⟨by decide, fun k job hget => ?_, rfl, _, _, rfl, rfl⟩⟩
  simp [pendingSession, noImports, leakQueued] at hget

end MiniGrc.Imports
