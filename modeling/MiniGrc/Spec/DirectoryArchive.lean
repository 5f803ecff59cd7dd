import MiniGrc.Spec.DirectoryRecovery

/-!
# The archive and the database

`process_claimed_file` renames the file into the archive before its caller commits the
session of the import. Along every run in which no worker dies, and no commit fails,
between the two, no step writes over a dropped file, and what is archived is what has been
imported (`ArchiveKept`), every archived file has its committed import job, and every other
claimed file is processed by later passes. A crash right after the rename leaves an
archived file without a job.

## Key results

- `Agrees.step`: every step under the condition keeps archive and database together
- `archive_agrees`: the runs under the condition
- `archive_agrees_crash`: a worker that dies between the rename and the commit
-/

namespace MiniGrc.ImportDirectory

open JobRuns Imports
open ConcurrentImports (Finished HasChecksum)

variable {ι ρ : Type}

/-- The name and the bytes of the file that the worker archives next. -/
def Pc.archives : Pc ι → Option (String × List UInt8)
  | .importing name rawBytes => some (name, rawBytes)
  | _ => none

/-- The name and the bytes of the file that the worker has archived without a commit. -/
def Pc.uncommitted : Pc ι → Option (String × List UInt8)
  | .archived name rawBytes | .written name rawBytes => some (name, rawBytes)
  | _ => none

/-- The part of the condition that is about single steps of `process_claimed_file`: the file
    that is archived has the bytes that were imported, and no pass ends between the rename
    and the commit. -/
def CommitsArchived (s : State ι ρ) : Label ι ρ → Prop
  | .archive i => ∀ x ∈ (s.pc i).archives, ∀ file ∈ s.files.file .processing x.1, file.content = x.2
  | .crash i => (s.pc i).uncommitted = none
  | _ => True

instance (s : State ι ρ) : DecidablePred (CommitsArchived s)
  | .archive i => inferInstanceAs (Decidable (∀ x ∈ (s.pc i).archives,
      ∀ file ∈ s.files.file .processing x.1, file.content = x.2))
  | .crash i => inferInstanceAs (Decidable ((s.pc i).uncommitted = none))
  | .drop .. | .tick _ | .reconcile .. | .inspect _ | .moveBack _ | .list _ | .tryClaim ..
  | .read _ | .call .. | .lookUp _ | .importer .. | .writeManifest _ | .commit _ => .isTrue trivial

/-- No step writes over a dropped file, and what is archived has been imported and is
    committed. -/
def ArchiveKept (s : State ι ρ) (l : Label ι ρ) : Prop := ReplacesNothing s l ∧ CommitsArchived s l

instance (s : State ι ρ) : DecidablePred (ArchiveKept s) := fun l =>
  inferInstanceAs (Decidable (ReplacesNothing s l ∧ CommitsArchived s l))

/-! ## What a step leaves alone -/

/-- The worker that takes the step. -/
def Label.worker : Label ι ρ → Option ι
  | .drop .. | .tick _ => none
  | .reconcile i _ | .inspect i | .moveBack i | .list i | .tryClaim i _ | .read i | .call i _
  | .lookUp i | .importer i _ | .archive i | .writeManifest i | .commit i | .crash i => some i

variable {config : Config ρ} {s u : State ι ρ} {l : Label ι ρ} [DecidableEq ι]

/-- Other workers and their sessions stay where they are. -/
theorem Effect.worker_ne (he : Effect config s l u) {j : ι} (hj : l.worker ≠ some j) :
    u.pc j = s.pc j ∧ u.db.pc j = s.db.pc j := by
  have hne : ∀ i, l.worker = some i → j ≠ i := fun i hi heq => hj (heq ▸ hi)
  cases he with
  | dropped => exact ⟨rfl, rfl⟩
  | ticked => exact ⟨rfl, rfl⟩
  | called _ hdb => exact ⟨rfl, hdb.pc_ne (hne _ rfl)⟩
  | lookedUp _ hdb => exact ⟨rfl, hdb.pc_ne (hne _ rfl)⟩
  | imported _ hdb => exact ⟨rfl, hdb.pc_ne (hne _ rfl)⟩
  | committed => exact ⟨setPc_pc_ne (hne _ rfl), Function.update_of_ne (hne _ rfl) ..⟩
  | crashed => exact ⟨setPc_pc_ne (hne _ rfl), Function.update_of_ne (hne _ rfl) ..⟩
  | _ => exact ⟨setPc_pc_ne (hne _ rfl), rfl⟩

/-- Committed import jobs stay as they are. -/
theorem Effect.keeps_committed (he : Effect config s l u) (h : s.db.Inv config.importers)
    {id : Id} {job : ImportJob} (hjob : s.db.importJobs.committed[id]? = some job) :
    u.db.importJobs.committed[id]? = some job := by
  cases he with
  | called _ hdb => rw [hdb.committed_eq fun _ => by simp]; exact hjob
  | lookedUp _ hdb => rw [hdb.committed_eq fun _ => by simp]; exact hjob
  | imported _ hdb => rw [hdb.committed_eq fun _ => by simp]; exact hjob
  | @committed i => exact h.commit_keeps i hjob
  | _ => exact hjob

theorem Settled.step {d : Dir} {name : String} {content : List UInt8}
    (hs : Settled config s d name content) (h : s.db.Inv config.importers)
    (he : Effect config s l u) : Settled config u d name content := by
  obtain ⟨id, job, hjob, hrest⟩ := hs
  exact ⟨id, job, he.keeps_committed h hjob, hrest⟩

/-! ## Archived files -/

/-- The worker has archived the file in the directory, and not committed its import. -/
def Committing (s : State ι ρ) (i : ι) (d : Dir) (name : String) (content : List UInt8) : Prop :=
  (s.pc i).uncommitted = some (name, content) ∧
    ∃ args id job, s.db.pc i = .returned args id job ∧ destination job = d

/-- A pass that has archived its file keeps its job until it commits. -/
theorem Committing.step {i : ι} {d : Dir} {name : String} {content : List UInt8}
    (hc : Committing s i d name content) (h : s.Linked config) (hok : CommitsArchived s l)
    (he : Effect config s l u) :
    Committing u i d name content ∨ Settled config u d name content := by
  obtain ⟨huncommitted, args, id, job, hreturned, hdestination⟩ := hc
  by_cases hi : l.worker = some i
  · cases he with
    | wrote hpc =>
      cases hi
      rw [hpc] at huncommitted
      cases huncommitted
      exact .inl ⟨by rw [setPc_pc_self]; rfl, args, id, job, hreturned, hdestination⟩
    | committed hpc =>
      cases hi
      rw [hpc] at huncommitted
      cases huncommitted
      have hsession := h.sessions i
      rw [hpc] at hsession
      obtain ⟨id', job', hargs⟩ := hsession
      cases hreturned.symm.trans hargs
      obtain ⟨-, hfinished, hchecksum⟩ := h.db.wrote_returned hreturned
      exact .inr ⟨id, job, h.db.commit_returned hreturned, hfinished, hdestination, hchecksum⟩
    | crashed =>
      cases hi
      cases huncommitted.symm.trans hok
    | _ => simp_all [Label.worker, Pc.uncommitted]
  · obtain ⟨hpc, hdb⟩ := he.worker_ne hi
    exact .inl ⟨hpc ▸ huncommitted, args, id, job, hdb ▸ hreturned, hdestination⟩

/-- Every dropped file in the archive has its committed import job, or its pass goes on. -/
def Agrees (config : Config ρ) (s : State ι ρ) : Prop :=
  ∀ d name file, s.files.file d name = some file → file.origin ≠ none →
    d ≠ .inbox ∧ d ≠ .processing →
    Settled config s d name file.content ∨ ∃ i, Committing s i d name file.content

/-- A step that puts no dropped file into the archive. -/
theorem Agrees.keep (h : Agrees config s) (hlinked : s.Linked config) (hok : CommitsArchived s l)
    (he : Effect config s l u)
    (hfiles : ∀ d name file, u.files.file d name = some file → file.origin ≠ none →
      d ≠ .inbox ∧ d ≠ .processing → s.files.file d name = some file) : Agrees config u := by
  intro d name file hfile horigin hd
  obtain hsettled | ⟨i, hcommitting⟩ :=
    h d name file (hfiles d name file hfile horigin hd) horigin hd
  · exact .inl (hsettled.step hlinked.db he)
  · obtain hcommitting | hsettled := hcommitting.step hlinked hok he
    · exact .inr ⟨i, hcommitting⟩
    · exact .inl hsettled

/-- Every step under the condition keeps archive and database together. -/
theorem Agrees.step (h : Agrees config s) (hlinked : s.Linked config) (hok : CommitsArchived s l)
    (he : Effect config s l u) : Agrees config u := by
  have hkeep := h.keep hlinked hok he
  cases he with
  | dropped =>
    refine hkeep fun d name file hfile _ hd => ?_
    rwa [State.drop, FileTree.file_put, if_neg fun hp => hd.1 hp.1.symm] at hfile
  | movedBack =>
    refine hkeep fun d name file hfile _ hd => ?_
    rwa [State.setPc, State.moveBack, FileTree.file_move, if_neg fun hp => hd.1 hp.1.symm,
      if_neg fun hp => hd.2 hp.1.symm] at hfile
  | claimed =>
    refine hkeep fun d name file hfile _ hd => ?_
    rwa [State.setPc, State.claim, FileTree.file_move, if_neg fun hp => hd.2 hp.1.symm,
      if_neg fun hp => hd.1 hp.1.symm] at hfile
  | wrote =>
    refine hkeep fun d name file hfile horigin _ => ?_
    rw [State.setPc, State.writeManifest, FileTree.file_put] at hfile
    split at hfile
    · cases hfile
      exact absurd rfl horigin
    · exact hfile
  | @archived i name rawBytes args id job file hpc hreturned hfile =>
    have hcontent : file.content = rawBytes := hok (name, rawBytes) (by rw [hpc]; rfl) file hfile
    intro d m g hg horigin hd
    by_cases hm : destination job = d ∧ name = m
    · -- the archived file
      rw [State.setPc, State.archive, FileTree.file_move, if_pos hm] at hg
      cases hg
      obtain ⟨hdst, rfl⟩ := hm
      refine .inr ⟨i, ?_, args, id, job, hreturned, hdst⟩
      rw [setPc_pc_self, hcontent]
      rfl
    · rw [State.setPc, State.archive, FileTree.file_move, if_neg hm,
        if_neg fun hp => hd.2 hp.1.symm] at hg
      obtain hsettled | ⟨j, hcommitting⟩ := h d m g hg horigin hd
      · exact .inl hsettled
      · obtain hcommitting | hsettled :=
          hcommitting.step hlinked hok (.archived hpc hreturned hfile)
        · exact .inr ⟨j, hcommitting⟩
        · exact .inl hsettled
  | _ => exact hkeep fun d name file hfile _ _ => hfile

/-! ## Archive and database -/

/-- A pass has archived a file of the name, and has not ended. -/
def PassOpen (s : State ι ρ) (name : String) : Prop :=
  ∃ i rawBytes, (s.pc i).uncommitted = some (name, rawBytes)

/-- What the archive and the database say about the dropped files. -/
structure ArchiveAgrees [Fintype ι] (config : Config ρ) (s : State ι ρ) : Prop where
  completed : ∀ name file, s.files.file .completed name = some file → file.origin ≠ none →
    PassOpen s name ∨ ∃ (id : Id) (job : ImportJob),
      s.db.importJobs.committed[id]? = some job ∧ job.status = .completed ∧
        job.checksumSha256 = config.importers.computeChecksum file.content
  rejected : ∀ name file, s.files.file .rejected name = some file → file.origin ≠ none →
    PassOpen s name ∨ ∃ (id : Id) (job : ImportJob),
      s.db.importJobs.committed[id]? = some job ∧ job.status = .rejected ∧
        (job.checksumSha256 = config.importers.computeChecksum file.content ∨
          defaultMaxBytes < file.content.length)
  claimed : ∀ k t, (k, t) ∈ claims s.history → ∃ d name file,
    s.files.file d name = some file ∧ file.origin = some k ∧
      (d = .inbox ∨ d = .processing → ∀ i importer, s.pc i = .idle →
        ∃ u, PassRun config i importer s u ∧ Archived config u k)

/-- What holds in every state of a run under the condition. -/
structure State.Sound (config : Config ρ) (s : State ι ρ) : Prop where
  linked : s.Linked config
  tagged : s.Tagged
  found : s.Found
  marked : s.Marked
  agrees : Agrees config s

theorem State.Sound.step (h : s.Sound config) (hok : ArchiveKept s l) (he : Effect config s l u) :
    u.Sound config where
  linked := h.linked.step he
  tagged := h.tagged.step he
  found := h.found.step hok.1 he
  marked := h.marked.step h.tagged he
  agrees := h.agrees.step h.linked hok.2 he

omit [DecidableEq ι] in
theorem Agrees.settled (h : Agrees config s) {d : Dir} {name : String} {file : File ι}
    (hfile : s.files.file d name = some file) (horigin : file.origin ≠ none)
    (hd : d ≠ .inbox ∧ d ≠ .processing) :
    PassOpen s name ∨ Settled config s d name file.content := by
  obtain hsettled | ⟨i, huncommitted, -⟩ := h d name file hfile horigin hd
  · exact .inr hsettled
  · exact .inl ⟨i, file.content, huncommitted⟩

theorem State.Sound.archiveAgrees [Fintype ι] (h : s.Sound config) : ArchiveAgrees config s where
  completed name file hfile horigin := by
    refine (h.agrees.settled hfile horigin (by decide)).imp_right ?_
    rintro ⟨id, job, hjob, -, hdestination, hchecksum⟩
    have hcompleted : job.status = .completed := by
      by_contra hne
      rw [destination, if_neg hne] at hdestination
      cases hdestination
    refine ⟨id, job, hjob, hcompleted, hchecksum.resolve_right fun hrejected => ?_⟩
    cases hcompleted.symm.trans hrejected.1
  rejected name file hfile horigin := by
    refine (h.agrees.settled hfile horigin (by decide)).imp_right ?_
    rintro ⟨id, job, hjob, hfinished, hdestination, hchecksum⟩
    have hrejected : job.status = .rejected := by
      refine hfinished.resolve_left fun hcompleted => ?_
      rw [destination, if_pos hcompleted] at hdestination
      cases hdestination
    exact ⟨id, job, hjob, hrejected, hchecksum.imp_right And.right⟩
  claimed k t hclaimed := by
    obtain ⟨⟨d, name⟩, file, hfile, horigin⟩ := h.found k (h.marked.dropped k t hclaimed)
    refine ⟨d, name, file, hfile, horigin, fun hd i importer hidle => ?_⟩
    obtain ⟨u, hrun, -, harchived⟩ := claimed_recoverable importer h.linked h.marked hidle hclaimed
      hfile horigin hd
    exact ⟨u, hrun, harchived⟩

theorem sound_empty : (State.empty : State ι ρ).Sound config where
  linked := ⟨.quiescent, fun _ => rfl⟩
  tagged := tagged_empty
  found := found_empty
  marked := marked_empty
  agrees d name file hfile := by simp [State.empty] at hfile

/-- In every run under the condition, the archive agrees with the database, and every other
    claimed file is processed by later passes. -/
theorem archive_agrees [Fintype ι] (h : Run (step config) ArchiveKept .empty s) :
    ArchiveAgrees config s :=
  (h.invariant sound_empty fun _ _ _ hs hok hl => hs.step hok (step_effect hl)).archiveAgrees

/-- Worker 0 dies in the import; after 400 seconds worker 1 processes the file. -/
theorem archive_agrees_recovered :
    ∃ s : State (Fin 2) String, ArchiveAgrees riskDirectory s ∧
      (s.files.file .completed "risks.csv").map File.content = some leakCsv := by
  have hrun : ∃ s, Run.exec (Run.guarded (step riskDirectory) ArchiveKept) .empty
      (.drop "risks.csv" leakCsv 0 :: claimFirst 0 [] ++ [.read 0, .call 0 leakEnv, .crash 0,
        .tick 400000000] ++ reclaim 1 ++ importClaimed 1 leakEnv ++ [.commit 1]) = some s ∧
      (s.files.file .completed "risks.csv").map File.content = some leakCsv := ⟨_, rfl, rfl⟩
  obtain ⟨s, hs, harchived⟩ := hrun
  exact ⟨s, archive_agrees (Run.of_exec_guarded _ hs), harchived⟩

/-- Worker 0 dies after it has written the manifest, before the commit: the file is in
    `archive/completed`, and there is no import job. -/
theorem archive_agrees_crash :
    ¬ ∀ s : State (Fin 2) String,
      Run (step riskDirectory) (fun _ _ => True) .empty s → ArchiveAgrees riskDirectory s := by
  intro hall
  have hrun : ∃ s, Run.exec (step riskDirectory) .empty
      (.drop "risks.csv" leakCsv 0 :: claimFirst 0 [] ++ importClaimed 0 leakEnv ++
        [.crash 0]) = some s ∧
      (s.files.file .completed "risks.csv").map File.origin = some (some 0) ∧
      s.db.importJobs.committed.toList = [] ∧ ∀ i, (s.pc i).uncommitted = none :=
    ⟨_, rfl, rfl, rfl, Fin.forall_fin_two.2 ⟨rfl, rfl⟩⟩
  obtain ⟨s, hs, harchived, hnone, hidle⟩ := hrun
  obtain ⟨file, hfile, horigin⟩ := Option.map_eq_some_iff.1 harchived
  obtain ⟨i, bytes, hopen⟩ | ⟨id, job, hjob, -⟩ := (hall s (Run.of_exec_true _ hs)).completed
    "risks.csv" file hfile (by rw [horigin]; exact Option.some_ne_none 0)
  · cases (hidle i).symm.trans hopen
  · have hmem := Std.ExtTreeMap.mem_toList_iff_getElem?_eq_some.2 hjob
    rw [hnone] at hmem
    cases hmem

end MiniGrc.ImportDirectory
