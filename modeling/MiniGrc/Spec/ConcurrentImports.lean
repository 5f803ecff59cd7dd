import MiniGrc.App.ConcurrentImports
import MiniGrc.ForStd.Run
import Mathlib.Tactic.Common

/-!
# Imports from several sessions

What one step of the interleaved imports does, and what holds in all their runs: the rows
of open transactions are new, a session has written at most one import job, and records
belong to completed jobs that have counted them.

## Key results

- `step_effect`: the steps of `run_import`
- `State.Inv.step`: every step keeps the invariant
- `call_step`, `lookUp_step`, `importer_step`: a call can go on until it returns
-/

namespace MiniGrc.ConcurrentImports

open JobRuns Imports

variable {ι ρ : Type}

/-! ## What a step does -/

/-- What a step does to the state. -/
inductive Effect [DecidableEq ι] (imps : Importers ρ) (s : State ι ρ) : Label ι ρ → State ι ρ → Prop
  | started {i env args} : s.pc i = .idle → s.importJobs.Unused env.jobId →
      Effect imps s (.call i env args)
        (s.put i env.jobId (startedJob env args) (.validating env args))
  | refused {i env args job} : s.pc i = .idle → s.importJobs.Unused env.jobId →
      job.status = .rejected → defaultMaxBytes < args.rawBytes.length →
      Effect imps s (.call i env args) (s.giveBack i args env.jobId job)
  | answered {i env args job} : s.pc i = .validating env args →
      job.status = .rejected ∨ (job.status = .completed ∧ job.recordsCreated = 0) →
      job.checksumSha256 = imps.computeChecksum args.rawBytes →
      Effect imps s (.lookUp i) (s.giveBack i args env.jobId job)
  | called {i env args job} : s.pc i = .validating env args →
      duplicateOf (s.importJobs.visible i) env.jobId (checkedJob imps env args) = none →
      job.status = .importing → job.checksumSha256 = imps.computeChecksum args.rawBytes →
      job.importerName = args.importerName → job.targetJson = args.target →
      Effect imps s (.lookUp i) (s.put i env.jobId job (.importing env job args))
  | completed {i env job args rows} : s.pc i = .importing env job args →
      Effect imps s (.importer i (.ok rows)) (s.complete i env args job rows)
  | raised {i env job job' args message} : s.pc i = .importing env job args →
      s.importJobs.Unused env.rejectedId → job'.status = .rejected →
      job'.checksumSha256 = imps.computeChecksum args.rawBytes →
      Effect imps s (.importer i (.error message))
        ((s.rollback i).giveBack i args env.rejectedId job')
  | committed {i args id job} :
    s.pc i = .returned args id job → Effect imps s (.commit i) (s.commit i)
  | rolledBack {i} : Effect imps s (.rollback i) (s.rollback i)

variable {imps : Importers ρ} {s u : State ι ρ} {l : Label ι ρ} [DecidableEq ι]

/-- What looking up the checksum does. -/
theorem lookUp_effect {i : ι} {env : ImportEnv} {args : ImportArgs}
    (hpc : s.pc i = .validating env args) :
    Effect imps s (.lookUp i) (lookUp imps s i env args) := by
  simp only [lookUp]
  split
  · exact .answered hpc (.inr ⟨rfl, rfl⟩) rfl
  next hnone =>
  split
  · exact .answered hpc (.inl rfl) rfl
  split
  · exact .answered hpc (.inl rfl) rfl
  · exact .called hpc hnone rfl rfl rfl rfl

/-- What every step does, with its guards. -/
theorem step_effect [Fintype ι] (h : step imps s l = some u) : Effect imps s l u := by
  -- The size is checked first, then the checksum, and the importer runs last.
  cases l with
  | call i env args =>
    simp only [step] at h
    split at h
    · next hpc =>
      split at h
      · cases h
      next hunused =>
      split at h
      · next hsize =>
        cases h
        exact .refused hpc (Classical.not_not.1 hunused) rfl hsize
      · cases h
        exact .started hpc (Classical.not_not.1 hunused)
    · cases h
  | lookUp i =>
    simp only [step] at h
    split at h
    · next hpc =>
      cases h
      exact lookUp_effect hpc
    · cases h
  | importer i outcome =>
    simp only [step] at h
    split at h
    · next hpc =>
      split at h
      · cases h
        exact .completed hpc
      · cases h
    · next hpc =>
      split at h
      · next hunused =>
        cases h
        exact .raised hpc hunused rfl rfl
      · cases h
    · cases h
  | commit i =>
    simp only [step] at h
    split at h
    · next hpc =>
      cases h
      exact .committed hpc
    · cases h
  | rollback i =>
    cases h
    exact .rolledBack

/-! ## What a step leaves alone -/

/-- The session that takes the step. -/
def Label.session : Label ι ρ → ι
  | .call i .. | .lookUp i | .importer i _ | .commit i | .rollback i => i

/-- The arguments of the call that a session is in. -/
def Pc.args : Pc → Option ImportArgs
  | .idle => none
  | .validating _ args | .importing _ _ args | .returned args _ _ => some args

/-- The session that writes is where it moves to. -/
@[simp] theorem put_pc_self {i : ι} {id : Id} {job : ImportJob} {pc : Pc} :
    (s.put i id job pc).pc i = pc :=
  Function.update_self ..

/-- Other sessions stay where they are. -/
theorem Effect.pc_ne (he : Effect imps s l u) {j : ι} (hj : j ≠ l.session) : u.pc j = s.pc j := by
  cases he with
  | raised =>
    exact (Function.update_of_ne hj ..).trans (Function.update_of_ne hj ..)
  | _ => exact Function.update_of_ne hj ..

/-- Only a commit changes what is committed. -/
theorem Effect.committed_eq (he : Effect imps s l u) (hl : ∀ i, l ≠ .commit i) :
    u.importJobs.committed = s.importJobs.committed := by
  cases he with
  | committed => exact absurd rfl (hl _)
  | _ => rfl

/-- A call keeps its arguments. -/
theorem Effect.call_args {i : ι} {env : ImportEnv} {args : ImportArgs}
    (he : Effect imps s (.call i env args) u) : (u.pc i).args = some args := by
  cases he with
  | started => rw [put_pc_self]; rfl
  | refused => rw [State.giveBack, put_pc_self]; rfl

/-- The look-up keeps the arguments. -/
theorem Effect.lookUp_args {i : ι} (he : Effect imps s (.lookUp i) u) :
    (u.pc i).args = (s.pc i).args := by
  cases he with
  | answered hpc => rw [State.giveBack, put_pc_self, hpc]; rfl
  | called hpc => rw [put_pc_self, hpc]; rfl

/-- The importer keeps the arguments. -/
theorem Effect.importer_args {i : ι} {outcome : Except String (List ρ)}
    (he : Effect imps s (.importer i outcome) u) : (u.pc i).args = (s.pc i).args := by
  cases he with
  | @completed _ env job args rows hpc =>
    have hreturned : (s.complete i env args job rows).pc i =
      .returned args env.jobId (completedJob env job (.ofRows rows)) := Function.update_self ..
    rw [hreturned, hpc]
    rfl
  | raised hpc => rw [State.giveBack, put_pc_self, hpc]; rfl

/-! ## The invariant -/

/-- The import is over. -/
def Finished (job : ImportJob) : Prop := job.status = .completed ∨ job.status = .rejected

/-- The only row of an open transaction. -/
def OnlyRow (own : Table ImportJob) (id : Id) (job : ImportJob) : Prop :=
  own[id]? = some job ∧ ∀ (k : Nat) row, own[k]? = some row → k = id

/-- The job has the checksum of the file, or the file was too large to compute one. -/
def HasChecksum (imps : Importers ρ) (args : ImportArgs) (job : ImportJob) : Prop :=
  job.checksumSha256 = imps.computeChecksum args.rawBytes ∨
    (job.status = .rejected ∧ defaultMaxBytes < args.rawBytes.length)

/-- The import jobs that a session has written, by where it stands. -/
def Wrote (imps : Importers ρ) (own : Table ImportJob) : Pc → Prop
  | .idle => ∀ k : Nat, own[k]? = none
  | .validating env _ => ∃ job, OnlyRow own env.jobId job ∧ job.status = .validating
  | .importing env job args => OnlyRow own env.jobId job ∧ job.status = .importing ∧
    job.checksumSha256 = imps.computeChecksum args.rawBytes
  | .returned args id job => OnlyRow own id job ∧ Finished job ∧ HasChecksum imps args job

/-- The job is completed and has counted records. -/
def HasCreated (jobs : Table ImportJob) (id : Id) : Prop :=
  ∃ job, jobs[id]? = some job ∧ job.status = .completed ∧ 0 < job.recordsCreated

/-- What holds in every state of a run. -/
structure State.Inv (imps : Importers ρ) (s : State ι ρ) : Prop where
  onlyInserts : s.importJobs.OnlyInserts
  wrote : ∀ i, Wrote imps (s.importJobs.own i) (s.pc i)
  finished : ∀ (k : Nat) row, s.importJobs.committed[k]? = some row → Finished row
  ownRecords : ∀ i (n : Nat) x, (s.records.own i)[n]? = some x →
    HasCreated (s.importJobs.own i) x.1
  committedRecords : ∀ (n : Nat) x, s.records.committed[n]? = some x →
    HasCreated s.importJobs.committed x.1

/-- A session's only row after it has been written again. -/
theorem onlyRow_write {t : OpenRows ι ImportJob} {i : ι} {id : Id} (job : ImportJob)
    (h : ∀ (k : Nat) row, (t.own i)[k]? = some row → k = id) :
    OnlyRow ((t.write i id job).own i) id job := by
  refine ⟨by rw [OpenRows.write_own_self, if_pos rfl], fun k row hk => ?_⟩
  rw [OpenRows.write_own_self] at hk
  split at hk
  · next hid => exact hid.symm
  · exact h k row hk

namespace State.Inv

omit [DecidableEq ι] in
/-- The row of a call that has not ended is its session's only one, and new. -/
theorem onlyRow_new (h : s.Inv imps) {i : ι} {id : Id} {job : ImportJob}
    (hrow : OnlyRow (s.importJobs.own i) id job) :
    s.importJobs.committed[id]? = none ∧ ∀ j, j ≠ i → (s.importJobs.own j)[id]? = none :=
  h.onlyInserts i id job hrow.1

omit [DecidableEq ι] in
/-- An idle session has written nothing. -/
theorem wrote_nothing (h : s.Inv imps) {i : ι} (hpc : s.pc i = .idle) (k : Nat) :
    (s.importJobs.own i)[k]? = none := by
  have hidle := h.wrote i
  rw [hpc] at hidle
  exact hidle k

omit [DecidableEq ι] in
/-- A session that validates has written its job. -/
theorem wrote_validating (h : s.Inv imps) {i : ι} {env : ImportEnv} {args : ImportArgs}
    (hpc : s.pc i = .validating env args) :
    ∃ job, OnlyRow (s.importJobs.own i) env.jobId job ∧ job.status = .validating := by
  simpa [hpc, Wrote] using h.wrote i

omit [DecidableEq ι] in
/-- A session that imports has written its job, with the checksum. -/
theorem wrote_importing (h : s.Inv imps) {i : ι} {env : ImportEnv} {job : ImportJob}
    {args : ImportArgs} (hpc : s.pc i = .importing env job args) :
    OnlyRow (s.importJobs.own i) env.jobId job ∧ job.status = .importing ∧
      job.checksumSha256 = imps.computeChecksum args.rawBytes := by
  simpa [hpc, Wrote] using h.wrote i

omit [DecidableEq ι] in
/-- A session that has returned has written a job that is finished. -/
theorem wrote_returned (h : s.Inv imps) {i : ι} {args : ImportArgs} {id : Id} {job : ImportJob}
    (hpc : s.pc i = .returned args id job) :
    OnlyRow (s.importJobs.own i) id job ∧ Finished job ∧ HasChecksum imps args job := by
  simpa [hpc, Wrote] using h.wrote i

omit [DecidableEq ι] in
/-- A session whose import has not been completed has added no records. -/
theorem no_ownRecords (h : s.Inv imps) {i : ι} {id : Id} {job : ImportJob}
    (hrow : OnlyRow (s.importJobs.own i) id job) (hjob : job.status ≠ .completed) (n : Nat) :
    (s.records.own i)[n]? = none := by
  by_contra hne
  obtain ⟨x, hx⟩ := Option.ne_none_iff_exists'.1 hne
  -- a record would be of a completed job, and the only row is not one
  obtain ⟨row, hfound, hcompleted, -⟩ := h.ownRecords i n x hx
  cases hrow.2 _ row hfound
  cases hrow.1.symm.trans hfound
  exact hjob hcompleted

/-- Writing a new row, or the only row of its session. -/
theorem put (h : s.Inv imps) {i : ι} {id : Id} {job : ImportJob} {pc : Pc}
    (hnew : s.importJobs.committed[id]? = none ∧ ∀ j, j ≠ i → (s.importJobs.own j)[id]? = none)
    (hwrote : Wrote imps ((s.importJobs.write i id job).own i) pc)
    (hrecords : ∀ n : Nat, (s.records.own i)[n]? = none) : (s.put i id job pc).Inv imps where
  onlyInserts := h.onlyInserts.write hnew.1 hnew.2
  wrote j := by
    -- Only the session that writes has something new to show.
    by_cases hj : j = i
    · subst hj
      simpa [State.put] using hwrote
    · simpa [State.put, hj, OpenRows.write_own_ne hj] using h.wrote j
  finished := h.finished
  ownRecords j n x hx := by
    by_cases hj : j = i
    · subst hj
      cases (hrecords n).symm.trans hx
    · simpa [State.put, HasCreated, OpenRows.write_own_ne hj] using h.ownRecords j n x hx
  committedRecords := h.committedRecords

/-- A session that is idle writes a new row. -/
theorem putNew (h : s.Inv imps) {i : ι} {id : Id} {job : ImportJob} {pc : Pc}
    (hpc : s.pc i = .idle) (hunused : s.importJobs.Unused id)
    (hwrote : OnlyRow ((s.importJobs.write i id job).own i) id job →
      Wrote imps ((s.importJobs.write i id job).own i) pc) : (s.put i id job pc).Inv imps := by
  refine h.put ⟨hunused.1, fun j _ => hunused.2 j⟩ (hwrote (onlyRow_write job fun k row hk => ?_))
    fun n => ?_
  · cases (h.wrote_nothing hpc k).symm.trans hk
  · by_contra hne
    obtain ⟨x, hx⟩ := Option.ne_none_iff_exists'.1 hne
    -- an idle session has no job for the record
    obtain ⟨row, hfound, -⟩ := h.ownRecords i n x hx
    cases (h.wrote_nothing hpc _).symm.trans hfound

omit [DecidableEq ι] in
/-- The rows of open transactions are new. -/
theorem own_eq_none (h : s.Inv imps) {i : ι} {k : Nat} {job : ImportJob}
    (hk : s.importJobs.committed[k]? = some job) : (s.importJobs.own i)[k]? = none := by
  by_contra hne
  obtain ⟨row, hrow⟩ := Option.ne_none_iff_exists'.1 hne
  cases (h.onlyInserts i k row hrow).1.symm.trans hk

/-- A rollback loses what the session wrote. -/
theorem rollback (h : s.Inv imps) (i : ι) : (s.rollback i).Inv imps where
  onlyInserts := h.onlyInserts.rollback
  wrote j := by
    -- Only the session that rolls back has to be looked at.
    by_cases hj : j = i
    · subst hj
      simp [State.rollback, Wrote, OpenRows.rollback_own_self]
    · simpa [State.rollback, hj, OpenRows.rollback_own_ne hj] using h.wrote j
  finished := h.finished
  ownRecords j n x hx := by
    by_cases hj : j = i
    · subst hj
      cases OpenRows.rollback_own_self.symm.trans hx
    · simp only [State.rollback, OpenRows.rollback_own_ne hj] at hx ⊢
      exact h.ownRecords j n x hx
  committedRecords := h.committedRecords

/-- A commit makes the session's job one of the finished ones. -/
theorem commit (h : s.Inv imps) {i : ι} {args : ImportArgs} {id : Id} {job : ImportJob}
    (hpc : s.pc i = .returned args id job) : (s.commit i).Inv imps where
  onlyInserts := h.onlyInserts.commit
  wrote j := by
    by_cases hj : j = i
    · subst hj
      simp [State.commit, Wrote, OpenRows.commit_own_self]
    · simpa [State.commit, hj, OpenRows.commit_own_ne hj] using h.wrote j
  finished k row hrow := by
    -- what is committed is the one row of the call, which has ended
    obtain ⟨honly, hfinished, -⟩ := h.wrote_returned hpc
    rw [State.commit, OpenRows.get_commit, OpenRows.row, Option.or_eq_some_iff] at hrow
    obtain hrow | ⟨-, hrow⟩ := hrow
    · cases honly.2 k row hrow
      cases honly.1.symm.trans hrow
      exact hfinished
    · exact h.finished k row hrow
  ownRecords j n x hx := by
    by_cases hj : j = i
    · subst hj
      cases OpenRows.commit_own_self.symm.trans hx
    · simp only [State.commit, OpenRows.commit_own_ne hj] at hx ⊢
      exact h.ownRecords j n x hx
  committedRecords n x hx := by
    rw [State.commit, OpenRows.get_commit, OpenRows.row, Option.or_eq_some_iff] at hx
    obtain hx | ⟨-, hx⟩ := hx
    · obtain ⟨job, hjob, hcreated⟩ := h.ownRecords i n x hx
      exact ⟨job, OpenRows.get_commit.trans (OpenRows.row_of_own hjob), hcreated⟩
    · -- the session has no row under the id of a committed job
      obtain ⟨job, hjob, hcreated⟩ := h.committedRecords n x hx
      refine ⟨job, OpenRows.get_commit.trans ?_, hcreated⟩
      rw [OpenRows.row_of_own_none (h.own_eq_none hjob), hjob]

/-- A commit keeps the committed jobs. -/
theorem commit_keeps (h : s.Inv imps) (i : ι) {k : Nat} {job : ImportJob}
    (hk : s.importJobs.committed[k]? = some job) :
    (s.commit i).importJobs.committed[k]? = some job := by
  rw [State.commit, OpenRows.get_commit, OpenRows.row_of_own_none (h.own_eq_none hk), hk]

/-- A commit makes the returned job one of the committed ones. -/
theorem commit_returned (h : s.Inv imps) {i : ι} {args : ImportArgs} {id : Id} {job : ImportJob}
    (hpc : s.pc i = .returned args id job) :
    (s.commit i).importJobs.committed[id]? = some job := by
  rw [State.commit, OpenRows.get_commit, OpenRows.row_of_own (h.wrote_returned hpc).1.1]

end State.Inv

/-! ## The records of an importer -/

/-- Adding records commits none. -/
@[simp] theorem addRecords_committed {i : ι} {id : Id} {recordId : Nat → Id} {rows : List ρ}
    {t : OpenRows ι (Id × ρ)} :
    (State.addRecords i id recordId rows t).committed = t.committed := by
  induction rows generalizing recordId t with
  | nil => rfl
  | cons row rows ih => exact ih

/-- The other sessions have no records more. -/
theorem addRecords_own_ne {i j : ι} {id : Id} {recordId : Nat → Id} {rows : List ρ}
    {t : OpenRows ι (Id × ρ)} (h : j ≠ i) :
    (State.addRecords i id recordId rows t).own j = t.own j := by
  induction rows generalizing recordId t with
  | nil => rfl
  | cons row rows ih => exact ih.trans (OpenRows.write_own_ne h)

/-- The rows that an importer adds are those of its job. -/
theorem addRecords_own {i : ι} {id : Id} {recordId : Nat → Id} {rows : List ρ}
    {t : OpenRows ι (Id × ρ)} {n : Nat} {x : Id × ρ}
    (h : ((State.addRecords i id recordId rows t).own i)[n]? = some x) :
    (t.own i)[n]? = some x ∨ (x.1 = id ∧ 0 < rows.length) := by
  induction rows generalizing recordId t with
  | nil => exact .inl h
  | cons row rows ih =>
    obtain h | ⟨hid, -⟩ := ih h
    · rw [OpenRows.write_own_self] at h
      split at h
      · cases h
        exact .inr ⟨rfl, Nat.succ_pos _⟩
      · exact .inl h
    · exact .inr ⟨hid, Nat.succ_pos _⟩

/-! ## The steps -/

namespace State.Inv

/-- The importer returns. -/
theorem complete (h : s.Inv imps) {i : ι} {env : ImportEnv} {job : ImportJob} {args : ImportArgs}
    (hpc : s.pc i = .importing env job args) (rows : List ρ) :
    (s.complete i env args job rows).Inv imps := by
  obtain ⟨hrow, hstatus, hchecksum⟩ := h.wrote_importing hpc
  have hput : (s.giveBack i args env.jobId (completedJob env job (.ofRows rows))).Inv imps :=
    h.put (h.onlyRow_new hrow) ⟨onlyRow_write _ hrow.2, .inl rfl, .inl hchecksum⟩
      (h.no_ownRecords hrow (by simp [hstatus]))
  refine ⟨hput.onlyInserts, hput.wrote, hput.finished, fun j n x hx => ?_, fun n x hx => ?_⟩
  · by_cases hj : j = i
    · subst hj
      obtain hx | ⟨hid, hpos⟩ := addRecords_own hx
      · exact hput.ownRecords j n x hx
      · -- an importer that adds a record is counted with more than none
        refine ⟨completedJob env job (.ofRows rows), ?_, rfl, hpos⟩
        rw [hid]
        exact (onlyRow_write _ hrow.2).1
    · rw [State.complete, addRecords_own_ne hj] at hx
      exact hput.ownRecords j n x hx
  · rw [State.complete, addRecords_committed] at hx
    exact hput.committedRecords n x hx

/-- Every step keeps the invariant. -/
theorem step (h : s.Inv imps) (he : Effect imps s l u) : u.Inv imps := by
  cases he with
  | started hpc hunused => exact h.putNew hpc hunused fun honly => ⟨_, honly, rfl⟩
  | refused hpc hunused hrejected hsize =>
    exact h.putNew hpc hunused fun honly => ⟨honly, .inr hrejected, .inr ⟨hrejected, hsize⟩⟩
  | answered hpc hjob hchecksum =>
    obtain ⟨old, hold, hvalidating⟩ := h.wrote_validating hpc
    refine h.put (h.onlyRow_new hold) ⟨onlyRow_write _ hold.2, ?_, .inl hchecksum⟩
      (h.no_ownRecords hold (by simp [hvalidating]))
    exact hjob.elim .inr fun hcompleted => .inl hcompleted.1
  | called hpc _ hstatus hchecksum _ _ =>
    obtain ⟨old, hold, hvalidating⟩ := h.wrote_validating hpc
    exact h.put (h.onlyRow_new hold) ⟨onlyRow_write _ hold.2, hstatus, hchecksum⟩
      (h.no_ownRecords hold (by simp [hvalidating]))
  | completed hpc => exact h.complete hpc _
  | raised hpc hunused hrejected hchecksum =>
    -- the transaction of the call is rolled back before the rejection is written
    exact (h.rollback _).putNew (by simp [State.rollback]) hunused.rollback
      fun honly => ⟨honly, .inr hrejected, .inl hchecksum⟩
  | committed hpc => exact h.commit hpc
  | rolledBack => exact h.rollback _

omit [DecidableEq ι] in
/-- With no job there is nothing to hold. -/
theorem quiescent : (State.quiescent : State ι ρ).Inv imps where
  onlyInserts := OpenRows.onlyInserts_closed ∅
  wrote _ _ := by simp [State.quiescent, OpenRows.closed]
  finished k row hrow := by simp [State.quiescent, OpenRows.closed] at hrow
  ownRecords i n x hx := by simp [State.quiescent, OpenRows.closed] at hx
  committedRecords n x hx := by simp [State.quiescent, OpenRows.closed] at hx

end State.Inv

/-! ## A call can go on -/

/-- The ids that a call takes from its environment later on are in use nowhere. -/
structure Fresh (s : State ι ρ) (env : ImportEnv) : Prop where
  rejectedId : s.importJobs.Unused env.rejectedId
  ne : env.jobId ≠ env.rejectedId
  recordId : ∀ n, s.records.Unused (env.recordId n)

section Progress

variable {i : ι} {env : ImportEnv} {args : ImportArgs}

/-- Writing the job leaves the identifiers of the records unused. -/
theorem Fresh.put (h : Fresh s env) (job : ImportJob) (pc : Pc) :
    Fresh (s.put i env.jobId job pc) env :=
  ⟨h.rejectedId.write h.ne, h.ne, h.recordId⟩

variable [Fintype ι]

omit [DecidableEq ι] in
/-- The environment can find new ids. -/
theorem exists_fresh (s : State ι ρ) : ∃ env, s.importJobs.Unused env.jobId ∧ Fresh s env := by
  obtain ⟨ids, hids⟩ := s.importJobs.exists_unused
  obtain ⟨recordId, hrecordId⟩ := s.records.exists_unused
  refine ⟨⟨ids 0, ids 1, recordId, 0, 0, 0⟩, hids 0, hids 1, fun heq => ?_, hrecordId⟩
  cases ids.injective heq

variable (imps)

/-- A session that is idle can call `run_import`. -/
theorem call_step (args : ImportArgs) (hpc : s.pc i = .idle)
    (hunused : s.importJobs.Unused env.jobId)
    (hfresh : Fresh s env) :
    ∃ u, step imps s (.call i env args) = some u ∧ Fresh u env ∧
      (u.pc i = .validating env args ∨ ∃ id job, u.pc i = .returned args id job) := by
  -- A body that is too large is refused at once.
  by_cases hsize : defaultMaxBytes < args.rawBytes.length
  · have hstep : step imps s (.call i env args) = some (s.giveBack i args env.jobId
        (rejectedJob env (startedJob env args)
          s!"File exceeds the maximum size of {defaultMaxBytes / (1024 * 1024)} MB.")) := by
      simp only [step, hpc, hunused, hsize, not_true_eq_false, if_true, if_false]
    exact ⟨_, hstep, hfresh.put _ _, .inr ⟨_, _, put_pc_self⟩⟩
  · have hstep : step imps s (.call i env args) =
        some (s.put i env.jobId (startedJob env args) (.validating env args)) := by
      simp only [step, hpc, hunused, hsize, not_true_eq_false, if_false]
    exact ⟨_, hstep, hfresh.put _ _, .inl put_pc_self⟩

/-- The look-up answers, or leads to the importer. -/
theorem lookUp_step (hpc : s.pc i = .validating env args) (hfresh : Fresh s env) :
    ∃ u, step imps s (.lookUp i) = some u ∧ Fresh u env ∧
      ((∃ job, u.pc i = .importing env job args) ∨ ∃ id job, u.pc i = .returned args id job) := by
  refine ⟨lookUp imps s i env args, by simp only [step, hpc], ?_⟩
  simp only [lookUp]
  split
  · exact ⟨hfresh.put _ _, .inr ⟨_, _, put_pc_self⟩⟩
  split
  · exact ⟨hfresh.put _ _, .inr ⟨_, _, put_pc_self⟩⟩
  split
  · exact ⟨hfresh.put _ _, .inr ⟨_, _, put_pc_self⟩⟩
  · exact ⟨hfresh.put _ _, .inl ⟨_, put_pc_self⟩⟩

/-- The call returns, whatever the importer makes of the file. -/
theorem importer_step {job : ImportJob} (hpc : s.pc i = .importing env job args)
    (hfresh : Fresh s env) (outcome : Except String (List ρ)) :
    ∃ u, step imps s (.importer i outcome) = some u ∧ ∃ id job, u.pc i = .returned args id job := by
  -- The importer returns its records or the text of its failure.
  cases outcome with
  | ok rows =>
    have hstep : step imps s (.importer i (.ok rows)) = some (s.complete i env args job rows) := by
      simp [step, hpc, hfresh.recordId]
    exact ⟨_, hstep, _, _, Function.update_self ..⟩
  | error message =>
    have hstep : step imps s (.importer i (.error message)) =
        some ((s.rollback i).giveBack i args env.rejectedId { checkedJob imps env args with
          status := .rejected, validationErrorsJson := some [Jobs.Job.truncated message]
          completedAt := some env.completedAt }) := by
      simp [step, hpc, hfresh.rejectedId]
    exact ⟨_, hstep, _, _, put_pc_self⟩

end Progress

end MiniGrc.ConcurrentImports
