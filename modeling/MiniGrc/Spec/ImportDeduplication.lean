import MiniGrc.Spec.ConcurrentImports
import MiniGrc.Spec.JobAttempts

/-!
# Import deduplication

`run_import` looks for a completed job with the same checksum, importer and target text,
and nothing else keeps two imports of one file apart: there is no unique constraint, and a
transaction does not see the imports that others have not committed. Along every run in
which a look-up that finds nothing has missed nothing (`MissesNothing`), at most one
completed import of a file, importer and target has created records. A rejected import
never has.

## Key results

- `imports_deduplicated`: the runs under the condition
- `imports_deduplicated_race`: two sessions that import one file at the same time
-/

namespace MiniGrc.ConcurrentImports

open JobRuns Imports

variable {ι ρ : Type}

/-- Two import jobs of one file, importer and target; a target is a mapping, whatever the
    order of its keys. -/
def SameImport (job job' : ImportJob) : Prop :=
  job.checksumSha256 = job'.checksumSha256 ∧ job.importerName = job'.importerName ∧
    job.targetJson.Perm job'.targetJson

instance (job job' : ImportJob) : Decidable (SameImport job job') :=
  inferInstanceAs (Decidable (_ ∧ _ ∧ _))

/-- The job has created records, or its importer has been called and may do so. -/
def Creates (job : ImportJob) : Prop :=
  job.status = .importing ∨ (job.status = .completed ∧ 0 < job.recordsCreated)

instance (job : ImportJob) : Decidable (Creates job) := inferInstanceAs (Decidable (_ ∨ _))

/-- The call whose look-up is next. -/
def Pc.looksUp : Pc → Option (ImportEnv × ImportArgs)
  | .validating env args => some (env, args)
  | _ => none

/-- If session `i`'s look-up finds nothing, it has missed nothing: no other session is about
    to create records from the same file, importer and target, and the completed imports that
    have done so have the target in the same order. -/
def SeesAll (imps : Importers ρ) (s : State ι ρ) (i : ι) (env : ImportEnv) (args : ImportArgs) :
    Prop :=
  duplicateOf (s.importJobs.visible i) env.jobId (checkedJob imps env args) = none →
    (∀ j, j ≠ i → ∀ x ∈ (s.importJobs.own j).toList,
      Creates x.2 → ¬ SameImport (checkedJob imps env args) x.2) ∧
    ∀ x ∈ s.importJobs.committed.toList,
      Creates x.2 → SameImport (checkedJob imps env args) x.2 → x.2.targetJson = args.target

/-- A look-up misses nothing. -/
def MissesNothing (imps : Importers ρ) (s : State ι ρ) : Label ι ρ → Prop
  | .lookUp i => ∀ x ∈ (s.pc i).looksUp, SeesAll imps s i x.1 x.2
  | _ => True

section Decidable

variable [DecidableEq ι] [Fintype ι] (imps : Importers ρ) (s : State ι ρ)

instance (i : ι) (env : ImportEnv) (args : ImportArgs) : Decidable (SeesAll imps s i env args) :=
  inferInstanceAs (Decidable (_ = none → (∀ j, j ≠ i → ∀ x ∈ (s.importJobs.own j).toList,
    Creates x.2 → ¬ SameImport (checkedJob imps env args) x.2) ∧ _))

instance : DecidablePred (MissesNothing imps s)
  | .lookUp i => inferInstanceAs (Decidable (∀ x ∈ (s.pc i).looksUp, SeesAll imps s i x.1 x.2))
  | .call .. | .importer .. | .commit _ | .rollback _ => .isTrue trivial

end Decidable

variable {imps : Importers ρ} {s u : State ι ρ} {l : Label ι ρ} [DecidableEq ι]

/-! ## Every import has one creator -/

/-- At most one import of a file, importer and target has created records or may do so. -/
def Unique (importJobs : OpenRows ι ImportJob) : Prop :=
  ∀ (k k' : Nat) row row', importJobs.Has k row → importJobs.Has k' row' → Creates row →
    Creates row' → SameImport row row' → k = k'

theorem SameImport.symm {job job' : ImportJob} (h : SameImport job job') : SameImport job' job :=
  ⟨h.1.symm, h.2.1.symm, h.2.2.symm⟩

theorem not_creates_of_rejected {job : ImportJob} (h : job.status = .rejected) : ¬ Creates job := by
  simp [Creates, h]

/-- A look-up that finds nothing has seen no other completed job. -/
theorem eq_of_duplicateOf_eq_none {importJobs : Table ImportJob} {id : Id} {job : ImportJob}
    {k : Nat} (row : ImportJob) (h : duplicateOf importJobs id job = none)
    (hrow : importJobs[k]? = some row)
    (hchecksum : row.checksumSha256 = job.checksumSha256)
    (hname : row.importerName = job.importerName) (htarget : row.targetJson = job.targetJson)
    (hcompleted : row.status = .completed) : k = id := by
  rw [duplicateOf, List.find?_eq_none] at h
  have hx := h (k, row) (Std.ExtTreeMap.mem_toList_iff_getElem?_eq_some.2 hrow)
  simpa [hchecksum, hname, htarget, hcompleted] using hx

namespace Unique

variable {t t' : OpenRows ι ImportJob}

omit [DecidableEq ι] in
theorem of_has (h : Unique t) (hhas : ∀ (k : Nat) row, t'.Has k row → t.Has k row) : Unique t' :=
  fun k k' row row' hk hk' => h k k' row row' (hhas k row hk) (hhas k' row' hk')

/-- Writing a row that stands for no import of another row. -/
theorem write (h : Unique t) {i : ι} {id : Id} {job : ImportJob}
    (hjob : Creates job → ∀ (k : Nat) row, t.Has k row → Creates row → SameImport job row →
      k = id) : Unique (t.write i id job) := by
  intro k k' row row' hk hk' hc hc' hsame
  obtain ⟨hid, hrow⟩ | hold := OpenRows.has_write hk <;>
    obtain ⟨hid', hrow'⟩ | hold' := OpenRows.has_write hk'
  · exact hid.symm.trans hid'
  · subst hrow
    exact hid.symm.trans (hjob hc k' row' hold' hc' hsame).symm
  · subst hrow'
    exact (hjob hc' k row hold hc hsame.symm).trans hid'
  · exact h k k' row row' hold hold' hc hc' hsame

/-- A look-up that misses nothing finds every other import of the file. -/
theorem called (h : Unique s.importJobs) (hinv : s.Inv imps) {i : ι} {env : ImportEnv}
    {args : ImportArgs} {job : ImportJob} (hpc : s.pc i = .validating env args)
    (hnone : duplicateOf (s.importJobs.visible i) env.jobId (checkedJob imps env args) = none)
    (hsees : SeesAll imps s i env args)
    (hchecksum : job.checksumSha256 = imps.computeChecksum args.rawBytes)
    (hname : job.importerName = args.importerName) (htarget : job.targetJson = args.target) :
    Unique (s.importJobs.write i env.jobId job) := by
  obtain ⟨old, hold, -⟩ := hinv.wrote_validating hpc
  obtain ⟨hopen, hclosed⟩ := hsees hnone
  refine h.write fun _ k row hk hc hsame => ?_
  have hchecked : SameImport (checkedJob imps env args) row := by
    rw [SameImport, hchecksum, hname, htarget] at hsame
    exact hsame
  obtain hcommitted | ⟨j, hown⟩ := hk
  · have hordered := hclosed (k, row)
      (Std.ExtTreeMap.mem_toList_iff_getElem?_eq_some.2 hcommitted) hc hchecked
    have hcompleted : row.status = .completed := by
      obtain hfinished | hfinished := hinv.finished k row hcommitted
      · exact hfinished
      · exact absurd hc (not_creates_of_rejected hfinished)
    by_contra hk
    have hown : (s.importJobs.own i)[k]? = none := by
      by_contra hne
      obtain ⟨row', hrow'⟩ := Option.ne_none_iff_exists'.1 hne
      exact hk (hold.2 k row' hrow')
    refine hk (eq_of_duplicateOf_eq_none row hnone ?_ hchecked.1.symm hchecked.2.1.symm
      hordered hcompleted)
    rw [OpenRows.get_visible, OpenRows.row_of_own_none hown, hcommitted]
  · by_cases hj : j = i
    · subst hj
      exact hold.2 k row hown
    · exact absurd hchecked (hopen j hj (k, row)
        (Std.ExtTreeMap.mem_toList_iff_getElem?_eq_some.2 hown) hc)

/-- Every step under the condition keeps imports apart. -/
theorem step (h : Unique s.importJobs) (hinv : s.Inv imps) (hok : MissesNothing imps s l)
    (he : Effect imps s l u) : Unique u.importJobs := by
  cases he with
  | started => exact h.write fun hc => absurd hc (by simp [Creates, startedJob])
  | refused _ _ hrejected _ =>
    exact h.write fun hc => absurd hc (not_creates_of_rejected hrejected)
  | answered _ hjob _ =>
    refine h.write fun hc => absurd hc ?_
    obtain hrejected | ⟨hcompleted, hzero⟩ := hjob
    · exact not_creates_of_rejected hrejected
    · simp [Creates, hcompleted, hzero]
  | @called i env args job hpc hnone _ hchecksum hname htarget =>
    have hsees : SeesAll imps s i env args := hok (env, args) (by rw [hpc]; rfl)
    exact h.called hinv hpc hnone hsees hchecksum hname htarget
  | @completed i env job args rows hpc =>
    obtain ⟨hrow, hstatus, -⟩ := hinv.wrote_importing hpc
    -- the row that is completed stands for the same import as before
    exact h.write fun _ k row hk hc hsame =>
      (h env.jobId k job row (.inr ⟨i, hrow.1⟩) hk (.inl hstatus) hc hsame).symm
  | raised _ _ hrejected _ =>
    exact (h.of_has fun _ _ => OpenRows.has_rollback).write fun hc =>
      absurd hc (not_creates_of_rejected hrejected)
  | committed => exact h.of_has fun _ _ => OpenRows.has_commit
  | rolledBack => exact h.of_has fun _ _ => OpenRows.has_rollback

end Unique

/-! ## Runs -/

/-- A completed job of a file, importer and target. -/
def CompletedImport (imps : Importers ρ) (rawBytes : List UInt8) (importerName : String)
    (target : Target) (job : ImportJob) : Prop :=
  job.status = .completed ∧ job.checksumSha256 = imps.computeChecksum rawBytes ∧
    job.importerName = importerName ∧ job.targetJson.Perm target

/-- There is a committed record that the import job has added. -/
def State.HasRecords (s : State ι ρ) (id : Id) : Prop :=
  ∃ (n : Nat) (row : ρ), s.records.committed[n]? = some (id, row)

/-- For every file, importer and target at most one completed import job has created
    records, and no rejected one has. -/
structure Deduplicated (imps : Importers ρ) (s : State ι ρ) : Prop where
  completed : ∀ rawBytes importerName target (k k' : Nat) job job',
    s.importJobs.committed[k]? = some job → s.importJobs.committed[k']? = some job' →
    CompletedImport imps rawBytes importerName target job →
    CompletedImport imps rawBytes importerName target job' →
    s.HasRecords k → s.HasRecords k' → k = k'
  rejected : ∀ (k : Nat) job, s.importJobs.committed[k]? = some job → job.status = .rejected →
    ¬ s.HasRecords k

omit [DecidableEq ι] in
theorem Unique.deduplicated (hu : Unique s.importJobs) (h : s.Inv imps) : Deduplicated imps s where
  completed rawBytes importerName target k k' job job' hk hk' himport himport' := by
    rintro ⟨n, row, hn⟩ ⟨n', row', hn'⟩
    obtain ⟨found, hfound, hcreated⟩ := h.committedRecords n _ hn
    obtain ⟨found', hfound', hcreated'⟩ := h.committedRecords n' _ hn'
    cases hk.symm.trans hfound
    cases hk'.symm.trans hfound'
    exact hu k k' job job' (.inl hk) (.inl hk') (.inr hcreated) (.inr hcreated')
      ⟨himport.2.1.trans himport'.2.1.symm, himport.2.2.1.trans himport'.2.2.1.symm,
        himport.2.2.2.trans himport'.2.2.2.symm⟩
  rejected k job hk hrejected := by
    rintro ⟨n, row, hn⟩
    obtain ⟨found, hfound, hcompleted, -⟩ := h.committedRecords n _ hn
    cases hk.symm.trans hfound
    cases hrejected.symm.trans hcompleted

/-- In every run whose look-ups miss nothing, imports are deduplicated. -/
theorem imports_deduplicated [Fintype ι]
    (h : Run (step imps) (MissesNothing imps) State.quiescent s) : Deduplicated imps s := by
  have hinv : s.Inv imps ∧ Unique s.importJobs := by
    refine h.invariant (P := fun s => s.Inv imps ∧ Unique s.importJobs)
      ⟨State.Inv.quiescent, fun k k' row row' hk => ?_⟩ fun s l u hs hok hl => ?_
    · simp [State.quiescent, OpenRows.closed, OpenRows.Has] at hk
    · exact ⟨hs.1.step (step_effect hl), hs.2.step hs.1 hok (step_effect hl)⟩
  exact hinv.2.deduplicated hinv.1

/-- New ids for a second import. -/
def secondEnv : ImportEnv := ⟨12, 13, fun k => 30 + k, 7, 7, 8⟩

/-- Session `i` imports the risk register, up to its commit. -/
def importLeak (i : Fin 2) (env : ImportEnv) (args : ImportArgs) : List (Label (Fin 2) String) :=
  [.call i env args, .lookUp i, .importer i (.ok ["Leak"])]

/-- The second session imports the file when the first has committed, and skips it. -/
theorem imports_deduplicated_inTurn :
    ∃ s : State (Fin 2) String, Deduplicated riskImporters s ∧
      (s.importJobs.committed[12]?).map ImportJob.recordsSkipped = some 1 := by
  have hrun : ∃ s, Run.exec (Run.guarded (step riskImporters) (MissesNothing riskImporters))
      State.quiescent (importLeak 0 leakEnv leakImport ++ [.commit 0,
        .call 1 secondEnv leakImport, .lookUp 1, .commit 1]) = some s ∧
      (s.importJobs.committed[12]?).map ImportJob.recordsSkipped = some 1 := ⟨_, rfl, rfl⟩
  obtain ⟨s, hs, hskipped⟩ := hrun
  exact ⟨s, imports_deduplicated (Run.of_exec_guarded _ hs), hskipped⟩

/-- Two completed jobs of the risk register with records. -/
theorem not_deduplicated {s : State (Fin 2) String} {k k' : Nat} {job job' : ImportJob}
    {target : Target} (hk : s.importJobs.committed[k]? = some job)
    (hk' : s.importJobs.committed[k']? = some job')
    (himport : CompletedImport riskImporters leakCsv "risk_register_csv" target job)
    (himport' : CompletedImport riskImporters leakCsv "risk_register_csv" target job')
    (hrecords : s.HasRecords k) (hrecords' : s.HasRecords k') (hne : k ≠ k') :
    ¬ Deduplicated riskImporters s := fun h =>
  hne (h.completed leakCsv _ target k k' job job' hk hk' himport himport' hrecords hrecords')

/-- Both sessions look for duplicates before either commits. -/
theorem imports_deduplicated_race :
    ¬ ∀ s : State (Fin 2) String,
      Run (step riskImporters) (fun _ _ => True) State.quiescent s →
        Deduplicated riskImporters s := by
  intro hall
  have hrun : ∃ s job job', Run.exec (step riskImporters) State.quiescent
      (importLeak 0 leakEnv leakImport ++ importLeak 1 secondEnv leakImport ++
        [.commit 0, .commit 1]) = some s ∧
      s.importJobs.committed[10]? = some job ∧ s.importJobs.committed[12]? = some job' ∧
      CompletedImport riskImporters leakCsv "risk_register_csv" [] job ∧
      CompletedImport riskImporters leakCsv "risk_register_csv" [] job' ∧
      s.HasRecords 10 ∧ s.HasRecords 12 :=
    ⟨_, _, _, rfl, rfl, rfl, ⟨rfl, rfl, rfl, .nil⟩, ⟨rfl, rfl, rfl, .nil⟩, ⟨20, "Leak", rfl⟩,
      ⟨30, "Leak", rfl⟩⟩
  obtain ⟨s, job, job', hs, hk, hk', himport, himport', hrecords, hrecords'⟩ := hrun
  exact not_deduplicated hk hk' himport himport' hrecords hrecords' (by decide)
    (hall s (Run.of_exec_true _ hs))

/-- A target with two keys, in either order. -/
def twoKeys (swapped : Bool) : Target :=
  if swapped then [("period", "2026"), ("owner", "risk")]
  else [("owner", "risk"), ("period", "2026")]

/-- One import after the other, with the same target in another order. -/
theorem imports_deduplicated_reordered :
    ¬ ∀ s : State (Fin 2) String,
      Run (step riskImporters) (fun _ _ => True) State.quiescent s →
        Deduplicated riskImporters s := by
  intro hall
  have hrun : ∃ s job job', Run.exec (step riskImporters) State.quiescent
      (importLeak 0 leakEnv { leakImport with target := twoKeys false } ++ [.commit 0] ++
        importLeak 1 secondEnv { leakImport with target := twoKeys true } ++ [.commit 1]) = some s ∧
      s.importJobs.committed[10]? = some job ∧ s.importJobs.committed[12]? = some job' ∧
      CompletedImport riskImporters leakCsv "risk_register_csv" (twoKeys false) job ∧
      CompletedImport riskImporters leakCsv "risk_register_csv" (twoKeys false) job' ∧
      s.HasRecords 10 ∧ s.HasRecords 12 :=
    ⟨_, _, _, rfl, rfl, rfl, ⟨rfl, rfl, rfl, .rfl⟩, ⟨rfl, rfl, rfl, .swap _ _ []⟩,
      ⟨20, "Leak", rfl⟩, ⟨30, "Leak", rfl⟩⟩
  obtain ⟨s, job, job', hs, hk, hk', himport, himport', hrecords, hrecords'⟩ := hrun
  exact not_deduplicated hk hk' himport himport' hrecords hrecords' (by decide)
    (hall s (Run.of_exec_true _ hs))

end MiniGrc.ConcurrentImports
