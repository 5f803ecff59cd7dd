import MiniGrc.App.ImportDirectory
import MiniGrc.Spec.ConcurrentImports
import MiniGrc.Spec.JobAttempts

/-!
# File conservation in the watched directory

All renames of `import_directory.py` keep the file's name, and a rename replaces a file
that has the name in the target directory. Along every run whose steps never write over a
dropped file (`ReplacesNothing`), every dropped file is in exactly one of the four
directories, with its content. A second drop of a name that is still being processed is
enough to break that.

## Key results

- `step_effect`: the steps of the workers
- `files_conserved`: the runs under the condition
- `files_conserved_sameName`: two files that are dropped under one name
-/

namespace MiniGrc.ImportDirectory

open JobRuns Imports

variable {ι ρ : Type}

/-! ## What a step does -/

/-- What a step does to the state. -/
inductive Effect [DecidableEq ι] (config : Config ρ) (s : State ι ρ) : Label ι ρ → State ι ρ → Prop
  | dropped {name content mtime} :
      Effect config s (.drop name content mtime) (s.drop name content mtime)
  | ticked {duration} : Effect config s (.tick duration) { s with clock := s.clock + duration }
  | reconciled {i names} : s.pc i = .idle → names.Perm (s.files.names .processing) →
      Effect config s (.reconcile i names) (s.setPc i (.reconciling s.clock names))
  | foundStale {i now name names file} : s.pc i = .reconciling now (name :: names) →
      s.files.file .processing name = some file → file.stale now →
      Effect config s (.inspect i) (s.setPc i (.moving now file name names))
  | foundFresh {i now name names} : s.pc i = .reconciling now (name :: names) →
      (∀ file, s.files.file .processing name = some file → ¬ file.stale now) →
      Effect config s (.inspect i) (s.setPc i (.reconciling now names))
  | movedBack {i now found name names file} : s.pc i = .moving now found name names →
      s.files.file .processing name = some file →
      Effect config s (.moveBack i) ((s.moveBack name file).setPc i (.reconciling now names))
  | listed {i now} : s.pc i = .reconciling now [] →
      Effect config s (.list i) (s.setPc i (.claiming (s.files.names .inbox)))
  | foundNothing {i stable} : s.pc i = .claiming [] →
      Effect config s (.tryClaim i stable) (s.setPc i .idle)
  | passedOver {i stable name names} : s.pc i = .claiming (name :: names) →
      Effect config s (.tryClaim i stable) (s.setPc i (.claiming names))
  | claimed {i name names file} : s.pc i = .claiming (name :: names) →
      s.files.file .inbox name = some file →
      Effect config s (.tryClaim i true) ((s.claim i name file).setPc i (.claimed name))
  | read {i name file} : s.pc i = .claimed name → s.files.file .processing name = some file →
      Effect config s (.read i) ((s.read i file).setPc i (.importing name file.content))
  | called {i env name rawBytes db} : s.pc i = .importing name rawBytes →
      ConcurrentImports.Effect config.importers s.db (.call i env (config.args name rawBytes)) db →
      Effect config s (.call i env) { s with db := db }
  | lookedUp {i name rawBytes db} : s.pc i = .importing name rawBytes →
      ConcurrentImports.Effect config.importers s.db (.lookUp i) db →
      Effect config s (.lookUp i) { s with db := db }
  | imported {i outcome name rawBytes db} : s.pc i = .importing name rawBytes →
      ConcurrentImports.Effect config.importers s.db (.importer i outcome) db →
      Effect config s (.importer i outcome) { s with db := db }
  | archived {i name rawBytes args id job file} : s.pc i = .importing name rawBytes →
      s.db.pc i = .returned args id job → s.files.file .processing name = some file →
      Effect config s (.archive i)
        ((s.archive name file job).setPc i (.archived name rawBytes))
  | wrote {i name rawBytes args id job text} : s.pc i = .archived name rawBytes →
      s.db.pc i = .returned args id job →
      Effect config s (.writeManifest i)
        ((s.writeManifest name job text).setPc i (.written name rawBytes))
  | committed {i name rawBytes args id job} : s.pc i = .written name rawBytes →
      s.db.pc i = .returned args id job →
      Effect config s (.commit i) ({ s with db := s.db.commit i }.setPc i .idle)
  | crashed {i} : Effect config s (.crash i) (s.crash i)

variable {config : Config ρ} {s u : State ι ρ} {l : Label ι ρ} [DecidableEq ι]

/-- The worker that moves on is where it moves to. -/
@[simp] theorem setPc_pc_self {i : ι} {pc : Pc ι} : (s.setPc i pc).pc i = pc :=
  Function.update_self ..

/-- The other workers stay where they are. -/
theorem setPc_pc_ne {i j : ι} {pc : Pc ι} (h : j ≠ i) : (s.setPc i pc).pc j = s.pc j :=
  Function.update_of_ne h ..

/-- What an attempt to claim the next file of the listing does. -/
theorem tryClaim_effect {i : ι} {stable : Bool} [Fintype ι]
    (h : step config s (.tryClaim i stable) = some u) :
    Effect config s (.tryClaim i stable) u := by
  simp only [step] at h
  -- The file may be gone, unstable or claimed by another worker: it is passed over then.
  split at h
  · next hpc =>
    cases h
    exact .foundNothing hpc
  · next hpc =>
    split at h
    · next hfile =>
      cases h
      exact .claimed hpc hfile
    · cases h
      exact .passedOver hpc
  · cases h

/-- What looking at the next file in `processing/` does. -/
theorem inspect_effect {i : ι} [Fintype ι] (h : step config s (.inspect i) = some u) :
    Effect config s (.inspect i) u := by
  simp only [step] at h
  -- A stale file is to be moved back, a fresh one and one that is gone are left alone.
  split at h
  · next hpc =>
    split at h
    · next file hfile =>
      split at h
      · next hstale =>
        cases h
        exact .foundStale hpc hfile hstale
      · next hfresh =>
        cases h
        refine .foundFresh hpc fun file' hfile' => ?_
        cases hfile.symm.trans hfile'
        exact hfresh
    · next hnone =>
      cases h
      refine .foundFresh hpc fun file' hfile' => ?_
      cases hnone.symm.trans hfile'
  · cases h

/-- What a step of the database session does to the rest of the state. -/
theorem dbStep_effect {l' : ConcurrentImports.Label ι ρ} [Fintype ι]
    (h : dbStep config s l' = some u) :
    ∃ db, ConcurrentImports.Effect config.importers s.db l' db ∧ u = { s with db := db } := by
  obtain ⟨db, hdb, rfl⟩ := Option.map_eq_some_iff.1 h
  exact ⟨db, ConcurrentImports.step_effect hdb, rfl⟩

/-- What every step does, with its guards. -/
theorem step_effect [Fintype ι] (h : step config s l = some u) : Effect config s l u := by
  -- The two steps that look into a directory have lemmas of their own.
  cases l with
  | inspect i => exact inspect_effect h
  | tryClaim i stable => exact tryClaim_effect h
  | drop name content mtime =>
    cases h
    exact .dropped
  | tick duration =>
    cases h
    exact .ticked
  | crash i =>
    cases h
    exact .crashed
  | reconcile i names =>
    simp only [step] at h
    split at h
    · next hpc =>
      split at h
      · next hperm =>
        cases h
        exact .reconciled hpc hperm
      · cases h
    · cases h
  | moveBack i =>
    simp only [step] at h
    split at h
    · next hpc =>
      obtain ⟨file, hfile, rfl⟩ := Option.map_eq_some_iff.1 h
      exact .movedBack hpc hfile
    · cases h
  | list i =>
    simp only [step] at h
    split at h
    · next hpc =>
      cases h
      exact .listed hpc
    · cases h
  | read i =>
    simp only [step] at h
    split at h
    · next hpc =>
      obtain ⟨file, hfile, rfl⟩ := Option.map_eq_some_iff.1 h
      exact .read hpc hfile
    · cases h
  | call i env =>
    simp only [step] at h
    split at h
    · next hpc =>
      obtain ⟨db, hdb, rfl⟩ := dbStep_effect h
      exact .called hpc hdb
    · cases h
  | lookUp i =>
    simp only [step] at h
    split at h
    · next hpc =>
      obtain ⟨db, hdb, rfl⟩ := dbStep_effect h
      exact .lookedUp hpc hdb
    · cases h
  | importer i outcome =>
    simp only [step] at h
    split at h
    · next hpc =>
      obtain ⟨db, hdb, rfl⟩ := dbStep_effect h
      exact .imported hpc hdb
    · cases h
  | archive i =>
    simp only [step] at h
    split at h
    · next hpc hreturned =>
      obtain ⟨file, hfile, rfl⟩ := Option.map_eq_some_iff.1 h
      exact .archived hpc hreturned hfile
    · cases h
  | writeManifest i =>
    simp only [step] at h
    split at h
    · next hpc hreturned =>
      cases h
      exact .wrote hpc hreturned
    · cases h
  | commit i =>
    simp only [step] at h
    split at h
    · next hpc =>
      obtain ⟨t, ht, rfl⟩ := Option.map_eq_some_iff.1 h
      obtain ⟨db, hdb, rfl⟩ := dbStep_effect ht
      cases hdb with
      | committed hreturned => exact .committed hpc hreturned
    · cases h

/-! ## Where a step writes -/

/-- Files are archived outside `inbox/` and `processing/`. -/
theorem destination_archive {job : ImportJob} :
    destination job ≠ .inbox ∧ destination job ≠ .processing := by
  unfold destination
  split <;> decide

omit [DecidableEq ι] in
/-- The path at which a step writes a file. -/
def target (s : State ι ρ) : Label ι ρ → Option (Dir × String)
  | .drop name _ _ => some (.inbox, name)
  | .moveBack i =>
    match s.pc i with
    | .moving _ _ name _ => some (.inbox, name)
    | _ => none
  | .tryClaim i true =>
    match s.pc i with
    | .claiming (name :: _) => (s.files.file .inbox name).map fun _ => (.processing, name)
    | _ => none
  | .archive i =>
    match s.pc i, s.db.pc i with
    | .importing name _, .returned _ _ job => some (destination job, name)
    | _, _ => none
  | .writeManifest i =>
    match s.pc i, s.db.pc i with
    | .archived name _, .returned _ _ job => some (destination job, manifestName name)
    | _, _ => none
  | _ => none

/-- The step does not write over a dropped file. -/
def ReplacesNothing (s : State ι ρ) (l : Label ι ρ) : Prop :=
  ∀ p ∈ target s l, ∀ file ∈ s.files.file p.1 p.2, file.origin = none

instance (s : State ι ρ) : DecidablePred (ReplacesNothing s) := fun l =>
  inferInstanceAs (Decidable (∀ p ∈ target s l, ∀ file ∈ s.files.file p.1 p.2, file.origin = none))

omit [DecidableEq ι] in
/-- A dropped file is not where the step writes. -/
theorem ReplacesNothing.spares (hok : ReplacesNothing s l) {d : Dir} {name : String}
    (htarget : target s l = some (d, name)) (k : Nat) (file : File ι)
    (hfile : s.files.file d name = some file) : file.origin ≠ some k := by
  rw [hok (d, name) htarget file hfile]
  exact (Option.some_ne_none k).symm

/-! ## Dropped files -/

/-- The files of drops have the content that was dropped. -/
def Contents (files : Files ι) (dropped : List (List UInt8)) : Prop :=
  ∀ d n file k, files.file d n = some file → file.origin = some k →
    dropped[k]? = some file.content

/-- Every drop is found at most once, with its content. -/
structure State.Tagged (s : State ι ρ) : Prop where
  once : s.files.AtMostOnce File.origin
  contents : Contents s.files s.dropped

/-- Every drop is found somewhere. -/
def State.Found (s : State ι ρ) : Prop :=
  ∀ k, k < s.dropped.length → s.files.Located File.origin k

omit [DecidableEq ι] in
/-- A rename keeps contents. -/
theorem Contents.move {files : Files ι} {dropped : List (List UInt8)} (h : Contents files dropped)
    {src dst : Dir} {name : String} {file file' : File ι} (hfile : files.file src name = some file)
    (horigin : file'.origin = file.origin) (hcontent : file'.content = file.content) :
    Contents (files.move src dst name file') dropped := by
  intro d n g k hg hk
  rw [FileTree.file_move] at hg
  split at hg
  · cases hg
    rw [hcontent]
    exact h src name file k hfile (horigin.symm.trans hk)
  split at hg
  · cases hg
  · exact h d n g k hg hk

omit [DecidableEq ι] in
/-- A file dropped gets a mark of its own. -/
theorem State.Tagged.drop (h : s.Tagged) (name : String) (content : List UInt8) (mtime : Time) :
    (s.drop name content mtime).Tagged where
  -- The mark is the length of the list of drops, which no earlier file has.
  once := by
    refine h.once.put fun k hk p hp => ?_
    obtain ⟨file, hfile, horigin⟩ := hp
    cases hk
    have hlt := h.contents _ _ _ _ hfile horigin
    rw [List.getElem?_eq_none (Nat.le_refl _)] at hlt
    cases hlt
  contents d n file k hfile hk := by
    rw [State.drop, FileTree.file_put] at hfile
    split at hfile
    · cases hfile
      cases hk
      simp [State.drop]
    · have hcontent := h.contents d n file k hfile hk
      obtain ⟨hlt, -⟩ := List.getElem?_eq_some_iff.1 hcontent
      rw [State.drop, List.getElem?_append_left hlt]
      exact hcontent

omit [DecidableEq ι] in
/-- A manifest has no mark. -/
theorem State.Tagged.writeManifest (h : s.Tagged) (name : String) (job : ImportJob)
    (text : List UInt8) : (s.writeManifest name job text).Tagged where
  once := h.once.put fun k hk => by cases hk
  contents d n file k hfile hk := by
    rw [State.writeManifest, FileTree.file_put] at hfile
    split at hfile
    · cases hfile
      cases hk
    · exact h.contents d n file k hfile hk

/-- No step duplicates a drop or changes its content. -/
theorem State.Tagged.step (h : s.Tagged) (he : Effect config s l u) : u.Tagged := by
  cases he with
  | dropped => exact h.drop _ _ _
  | movedBack _ hfile => exact ⟨h.once.move hfile rfl, h.contents.move hfile rfl rfl⟩
  | claimed _ hfile => exact ⟨h.once.move hfile rfl, h.contents.move hfile rfl rfl⟩
  | archived _ _ hfile => exact ⟨h.once.move hfile rfl, h.contents.move hfile rfl rfl⟩
  | @wrote i name _ _ _ job text =>
    have hwrite := h.writeManifest name job text
    exact ⟨hwrite.once, hwrite.contents⟩
  | _ => exact ⟨h.once, h.contents⟩

/-- A step that writes over no dropped file loses none. -/
theorem State.Found.step (h : s.Found) (hok : ReplacesNothing s l) (he : Effect config s l u) :
    u.Found := by
  -- A file that moves is found where it moves to: `hok` keeps the place free.
  cases he with
  | @dropped name content mtime =>
    intro k hk
    rw [State.drop, List.length_append, List.length_singleton] at hk
    obtain hlt | heq := Nat.lt_succ_iff_lt_or_eq.1 hk
    · exact (h k hlt).put (hok.spares rfl k)
    · subst heq
      exact FileTree.located_put rfl
  | @movedBack i now found name names file hpc hfile =>
    have htarget : target s (.moveBack i) = some (.inbox, name) := by simp [target, hpc]
    exact fun k hk => (h k hk).move hfile rfl (hok.spares htarget k)
  | @claimed i name names file hpc hfile =>
    have htarget : target s (.tryClaim i true) = some (.processing, name) := by
      simp [target, hpc, hfile]
    exact fun k hk => (h k hk).move hfile rfl (hok.spares htarget k)
  | @archived i name rawBytes args id job file hpc hreturned hfile =>
    have htarget : target s (.archive i) = some (destination job, name) := by
      simp [target, hpc, hreturned]
    exact fun k hk => (h k hk).move hfile rfl (hok.spares htarget k)
  | @wrote i name rawBytes args id job text hpc hreturned =>
    have htarget : target s (.writeManifest i) = some (destination job, manifestName name) := by
      simp [target, hpc, hreturned]
    exact fun k hk => (h k hk).put (hok.spares htarget k)
  | _ => exact h

/-! ## Conservation -/

/-- Every dropped file is in exactly one directory, under one name, with its content. -/
def Conserved (s : State ι ρ) : Prop :=
  ∀ k content, s.dropped[k]? = some content → ∃! p : Dir × String,
    ∃ file, s.files.file p.1 p.2 = some file ∧ file.origin = some k ∧ file.content = content

omit [DecidableEq ι] in
/-- Every file that was dropped is found in one place. -/
theorem State.Found.conserved (h : s.Found) (htagged : s.Tagged) : Conserved s := by
  intro k content hk
  obtain ⟨hlt, -⟩ := List.getElem?_eq_some_iff.1 hk
  obtain ⟨p, file, hfile, horigin⟩ := h k hlt
  refine ⟨p, ⟨file, hfile, horigin, ?_⟩, ?_⟩
  · exact Option.some.inj ((htagged.contents _ _ _ _ hfile horigin).symm.trans hk)
  · rintro q ⟨file', hfile', horigin', -⟩
    exact htagged.once k q p ⟨file', hfile', horigin'⟩ ⟨file, hfile, horigin⟩

omit [DecidableEq ι] in
/-- With nothing dropped there is no mark. -/
theorem tagged_empty : (State.empty : State ι ρ).Tagged where
  once x p q hp := by
    obtain ⟨file, hfile, -⟩ := hp
    simp [State.empty] at hfile
  contents d n file k hfile := by simp [State.empty] at hfile

omit [DecidableEq ι] in
/-- With nothing dropped there is nothing to be found. -/
theorem found_empty : (State.empty : State ι ρ).Found := fun _ hk => absurd hk (Nat.not_lt_zero _)

/-- In every run whose steps write over no dropped file, the dropped files are conserved. -/
theorem files_conserved [Fintype ι] (h : Run (step config) ReplacesNothing .empty s) :
    Conserved s := by
  have hinv : s.Tagged ∧ s.Found := by
    refine h.invariant (P := fun s => s.Tagged ∧ s.Found) ⟨tagged_empty, found_empty⟩
      fun s l u hs hok hl => ?_
    exact ⟨hs.1.step (step_effect hl), hs.2.step hok (step_effect hl)⟩
  exact hinv.2.conserved hinv.1

/-- The watched directory of the risk register. -/
def riskDirectory : Config String := ⟨riskImporters, "risk_register_csv", "worker", fun _ => []⟩

/-- Worker `i` starts a pass, in which it looks at the files `names` in `processing/`, finds
    none of them stale and claims the first file of `inbox/`. -/
def claimFirst (i : Fin 2) (names : List String) : List (Label (Fin 2) String) :=
  .reconcile i names :: names.map (fun _ => .inspect i) ++ [.list i, .tryClaim i true]

/-- Worker `i` imports the file that it has claimed, and archives it. -/
def importClaimed (i : Fin 2) (env : ImportEnv) : List (Label (Fin 2) String) :=
  [.read i, .call i env, .lookUp i, .importer i (.ok ["Leak"]), .archive i, .writeManifest i]

/-- A file is dropped and goes through to the archive. -/
theorem files_conserved_onePass :
    ∃ s : State (Fin 2) String, Conserved s ∧
      (s.files.file .completed "risks.csv").map File.content = some leakCsv := by
  have hrun : ∃ s, Run.exec (Run.guarded (step riskDirectory) ReplacesNothing) .empty
      (.drop "risks.csv" leakCsv 0 :: claimFirst 0 [] ++ importClaimed 0 leakEnv ++
        [.commit 0]) = some s ∧
      (s.files.file .completed "risks.csv").map File.content = some leakCsv := ⟨_, rfl, rfl⟩
  obtain ⟨s, hs, harchived⟩ := hrun
  exact ⟨s, files_conserved (Run.of_exec_guarded _ hs), harchived⟩

/-- While worker 0 has `risks.csv` in `processing/`, another file of that name is dropped;
    when worker 1 claims it, the first one is gone. -/
theorem files_conserved_sameName :
    ¬ ∀ s : State (Fin 2) String,
      Run (step riskDirectory) (fun _ _ => True) .empty s → Conserved s := by
  intro hall
  have hrun : ∃ s, Run.exec (step riskDirectory) .empty
      (.drop "risks.csv" leakCsv 0 :: claimFirst 0 [] ++ .drop "risks.csv" [] 0 ::
        claimFirst 1 ["risks.csv"]) = some s ∧ s.dropped[0]? = some leakCsv ∧
      ∀ d : Dir, ((s.files d).toList.all fun x => x.2.origin ≠ some 0) = true :=
    ⟨_, rfl, rfl, fun d => by cases d <;> rfl⟩
  obtain ⟨s, hs, hdropped, hnone⟩ := hrun
  obtain ⟨p, ⟨file, hfile, horigin, -⟩, -⟩ := hall s (Run.of_exec_true _ hs) 0 leakCsv hdropped
  have hmem := Std.ExtTreeMap.mem_toList_iff_getElem?_eq_some.2 hfile
  have hne := List.all_eq_true.1 (hnone p.1) _ hmem
  simp [horigin] at hne

end MiniGrc.ImportDirectory
