import MiniGrc.Spec.DirectoryClaims

/-!
# Claimed files are processed later

A worker that dies leaves its file in `processing/`. Once the file is stale, the pass of
any other worker moves it back to `inbox/`, claims it and archives it: there is nothing in
the state that a crash leaves that can keep the pass from doing so.

## Key results

- `State.Linked.step`: a worker and its session go together
- `claimed_recoverable`: a claimed file that is not archived can be processed
-/

namespace MiniGrc.ImportDirectory

open JobRuns Imports
open ConcurrentImports (Finished HasChecksum)

variable {ι ρ : Type}

/-! ## Workers and their sessions -/

/-- The session of a worker, by where the worker stands. -/
def InSession (config : Config ρ) : Pc ι → ConcurrentImports.Pc → Prop
  | .importing name rawBytes, db => ∀ args ∈ db.args, args = config.args name rawBytes
  | .archived name rawBytes, db | .written name rawBytes, db =>
    ∃ id job, db = .returned (config.args name rawBytes) id job
  | _, db => db = .idle

/-- The sessions do what their workers do. -/
structure State.Linked [DecidableEq ι] (config : Config ρ) (s : State ι ρ) : Prop where
  db : s.db.Inv config.importers
  sessions : ∀ i, InSession config (s.pc i) (s.db.pc i)

namespace State.Linked

variable {config : Config ρ} {s u : State ι ρ} {l : Label ι ρ} [DecidableEq ι]

/-- The link is between the database and where the workers are. -/
theorem of_eq (h : s.Linked config) (hdb : u.db = s.db) (hpc : u.pc = s.pc) : u.Linked config :=
  ⟨hdb ▸ h.db, fun i => hdb ▸ hpc ▸ h.sessions i⟩

/-- A worker may move on inside its session. -/
theorem setPc (h : s.Linked config) {i : ι} {pc : Pc ι} (hpc : InSession config pc (s.db.pc i)) :
    (s.setPc i pc).Linked config where
  db := h.db
  sessions j := by
    by_cases hj : j = i
    · subst hj
      rw [setPc_pc_self]
      exact hpc
    · rw [setPc_pc_ne hj]
      exact h.sessions j

/-- A step of a worker's session that moves the worker on. -/
theorem setDbPc (h : s.Linked config) {l' : ConcurrentImports.Label ι ρ}
    {db : ConcurrentImports.State ι ρ} {pc : Pc ι}
    (hdb : ConcurrentImports.Effect config.importers s.db l' db)
    (hpc : InSession config pc (db.pc l'.session)) :
    (({ s with db := db } : State ι ρ).setPc l'.session pc).Linked config where
  db := h.db.step hdb
  sessions j := by
    -- The session that steps is linked by `hpc`; the others have not moved.
    by_cases hj : j = l'.session
    · subst hj
      rw [setPc_pc_self]
      exact hpc
    · have hother : db.pc j = s.db.pc j := hdb.pc_ne hj
      have hsession := h.sessions j
      rw [setPc_pc_ne hj]
      rwa [← hother] at hsession

/-- A step of a worker's session. -/
theorem setDb (h : s.Linked config) {l' : ConcurrentImports.Label ι ρ}
    {db : ConcurrentImports.State ι ρ}
    (hdb : ConcurrentImports.Effect config.importers s.db l' db)
    (hpc : InSession config (s.pc l'.session) (db.pc l'.session)) :
    ({ s with db := db } : State ι ρ).Linked config :=
  (h.setDbPc hdb hpc).of_eq rfl (by simp [State.setPc])

/-- A worker outside an import has an idle session. -/
theorem idle (h : s.Linked config) {i : ι} {pc : Pc ι} (hpc : s.pc i = pc)
    (hidle : InSession config pc = fun db => db = .idle) : s.db.pc i = .idle := by
  have hsession := h.sessions i
  rw [hpc, hidle] at hsession
  exact hsession

/-- Every step keeps workers and sessions together. -/
theorem step (h : s.Linked config) (he : Effect config s l u) : u.Linked config := by
  -- A step outside the import finds the session idle.
  cases he with
  | dropped => exact ⟨h.db, h.sessions⟩
  | ticked => exact ⟨h.db, h.sessions⟩
  | reconciled hpc => exact h.setPc (h.idle hpc rfl)
  | foundStale hpc => exact h.setPc (h.idle hpc rfl)
  | foundFresh hpc => exact h.setPc (h.idle hpc rfl)
  | movedBack hpc => exact setPc (h.of_eq (u := s.moveBack _ _) rfl rfl) (h.idle hpc rfl)
  | listed hpc => exact h.setPc (h.idle hpc rfl)
  | foundNothing hpc => exact h.setPc (h.idle hpc rfl)
  | passedOver hpc => exact h.setPc (h.idle hpc rfl)
  | claimed hpc => exact setPc (h.of_eq (u := s.claim _ _ _) rfl rfl) (h.idle hpc rfl)
  | @read i name file hpc =>
    have hidle := h.idle hpc rfl
    refine setPc (h.of_eq (u := s.read i file) rfl rfl) fun args hargs => ?_
    have hnone : (s.db.pc i).args = some args := hargs
    rw [hidle] at hnone
    cases hnone
  | @called i env name rawBytes db hpc hdb =>
    refine h.setDb hdb ?_
    rw [ConcurrentImports.Label.session, hpc]
    intro args hargs
    rw [hdb.call_args] at hargs
    exact (Option.some.inj hargs).symm
  | @lookedUp i name rawBytes db hpc hdb =>
    have hsession := h.sessions i
    refine h.setDb hdb ?_
    rw [ConcurrentImports.Label.session, hpc, InSession, hdb.lookUp_args]
    rwa [hpc, InSession] at hsession
  | @imported i outcome name rawBytes db hpc hdb =>
    have hsession := h.sessions i
    refine h.setDb hdb ?_
    rw [ConcurrentImports.Label.session, hpc, InSession, hdb.importer_args]
    rwa [hpc, InSession] at hsession
  | @archived i name rawBytes args id job file hpc hreturned =>
    have hsession := h.sessions i
    rw [hpc, InSession, hreturned] at hsession
    cases hsession args rfl
    exact setPc (h.of_eq (u := s.archive name file job) rfl rfl) ⟨id, job, hreturned⟩
  | @wrote i name rawBytes args id job text hpc =>
    have hsession := h.sessions i
    rw [hpc] at hsession
    exact setPc (h.of_eq (u := s.writeManifest name job text) rfl rfl) hsession
  | @committed i name rawBytes args id job hpc hreturned =>
    exact h.setDbPc (.committed hreturned) (Function.update_self ..)
  | @crashed i =>
    have hrolled : (({ s with db := s.db.rollback i } : State ι ρ).setPc i .idle).Linked config :=
      h.setDbPc .rolledBack (Function.update_self ..)
    exact hrolled

end State.Linked

/-! ## Claimed files -/

/-- Files that have been claimed bear a claim, and do not wait in `inbox/` while another
    file of their name is in `processing/`. -/
structure State.Marked (s : State ι ρ) : Prop where
  dropped : ∀ k t, (k, t) ∈ claims s.history → k < s.dropped.length
  claimed : ∀ k t d name file, (k, t) ∈ claims s.history → s.files.file d name = some file →
    file.origin = some k → file.claim ≠ none
  apart : ∀ name file, s.files.file .inbox name = some file → file.claim ≠ none →
    s.files.file .processing name = none

namespace State.Marked

variable {config : Config ρ} {s u : State ι ρ} {l : Label ι ρ} {name : String} {file : File ι}

/-- A file dropped is marked with its time. -/
theorem drop (h : s.Marked) (content : List UInt8) (mtime : Time) :
    (s.drop name content mtime).Marked where
  -- The mark is the next one, which nothing in the history has.
  dropped k t ht := by
    rw [State.drop, List.length_append]
    exact Nat.lt_add_right _ (h.dropped k t ht)
  claimed k t d m g ht hg hk := by
    rw [State.drop, FileTree.file_put] at hg
    split at hg
    · cases hg
      cases hk
      exact absurd (h.dropped _ t ht) (Nat.lt_irrefl _)
    · exact h.claimed k t d m g ht hg hk
  apart m g hg hclaim := by
    rw [State.drop, FileTree.file_put] at hg ⊢
    rw [if_neg fun hm => by cases hm.1]
    split at hg
    · cases hg
      exact absurd rfl hclaim
    · exact h.apart m g hg hclaim

/-- A manifest has no mark. -/
theorem writeManifest (h : s.Marked) (name : String) (job : ImportJob) (text : List UInt8) :
    (s.writeManifest name job text).Marked where
  dropped := h.dropped
  -- A manifest has no mark, so nothing is claimed of it.
  claimed k t d m g ht hg hk := by
    rw [State.writeManifest, FileTree.file_put] at hg
    split at hg
    · cases hg
      cases hk
    · exact h.claimed k t d m g ht hg hk
  apart m g hg hclaim := by
    obtain ⟨hinbox, hprocessing⟩ : destination job ≠ .inbox ∧ destination job ≠ .processing :=
      destination_archive
    rw [State.writeManifest, FileTree.file_put] at hg ⊢
    rw [if_neg fun hm => hinbox hm.1] at hg
    rw [if_neg fun hm => hprocessing hm.1]
    exact h.apart m g hg hclaim

/-- A rename out of `processing/`. -/
theorem moveOut (h : s.Marked) (hfile : s.files.file .processing name = some file) (dst : Dir)
    (hdst : dst ≠ .processing) (hhistory : claims u.history = claims s.history)
    (hdropped : u.dropped = s.dropped) (hfiles : u.files = s.files.move .processing dst name file) :
    u.Marked where
  -- The file leaves `processing/` with its mark.
  dropped k t ht := by
    rw [hhistory] at ht
    rw [hdropped]
    exact h.dropped k t ht
  claimed k t d m g ht hg hk := by
    rw [hhistory] at ht
    rw [hfiles, FileTree.file_move] at hg
    split at hg
    · cases hg
      exact h.claimed k t .processing name file ht hfile hk
    split at hg
    · cases hg
    · exact h.claimed k t d m g ht hg hk
  apart m g hg hclaim := by
    rw [hfiles, FileTree.file_move] at hg ⊢
    rw [if_neg fun hm => hdst hm.1]
    split
    · rfl
    · next hne =>
      rw [if_neg fun hm => hne ⟨rfl, hm.2⟩, if_neg fun hm => by cases hm.1] at hg
      exact h.apart m g hg hclaim

/-- A claimed file keeps its mark. -/
theorem claim [DecidableEq ι] (h : s.Marked) (htagged : s.Tagged) (i : ι)
    (hfile : s.files.file .inbox name = some file) : (s.claim i name file).Marked := by
  have hclaims : ∀ k t, (k, t) ∈ claims (s.claim i name file).history →
      (k, t) ∈ claims s.history ∨ file.origin = some k := by
    intro k t ht
    cases horigin : file.origin with
    | none =>
      rw [State.claim, claims_manifest horigin] at ht
      exact .inl ht
    | some k' =>
      rw [State.claim, claims_claimed horigin] at ht
      obtain ht | ht := List.mem_append.1 ht
      · exact .inl ht
      · cases List.mem_singleton.1 ht
        exact .inr rfl
  constructor
  · intro k t ht
    obtain ht | horigin := hclaims k t ht
    · exact h.dropped k t ht
    · exact (List.getElem?_eq_some_iff.1 (htagged.contents _ _ _ _ hfile horigin)).1
  · intro k t d m g ht hg hk
    rw [State.claim, FileTree.file_move] at hg
    split at hg
    · cases hg
      exact Option.some_ne_none _
    split at hg
    · cases hg
    · next hne =>
      obtain ht | horigin := hclaims k t ht
      · exact h.claimed k t d m g ht hg hk
      · -- the claimed file is nowhere else
        cases htagged.once k (d, m) (.inbox, name) ⟨g, hg, hk⟩ ⟨file, hfile, horigin⟩
        exact absurd ⟨rfl, rfl⟩ hne
  · intro m g hg hclaim
    rw [State.claim, FileTree.file_move] at hg ⊢
    rw [if_neg fun hm => by cases hm.1] at hg
    split at hg
    · cases hg
    · next hne =>
      rw [if_neg fun hm => hne ⟨rfl, hm.2⟩, if_neg fun hm => by cases hm.1]
      exact h.apart m g hg hclaim

/-- Every step keeps claimed files marked. -/
theorem step [DecidableEq ι] (h : s.Marked) (htagged : s.Tagged) (he : Effect config s l u) :
    u.Marked := by
  -- The marks are those of the drops; moves and claims carry them along.
  cases he with
  | dropped => exact h.drop _ _
  | movedBack _ hfile =>
    exact h.moveOut hfile .inbox (by decide) (claims_movedBack ..) rfl rfl
  | @claimed i _ _ _ _ hfile =>
    have hclaimed := h.claim htagged i hfile
    exact ⟨hclaimed.dropped, hclaimed.claimed, hclaimed.apart⟩
  | @archived i name rawBytes args id job file hpc hreturned hfile =>
    exact h.moveOut hfile (destination job) destination_archive.2 rfl rfl rfl
  | @wrote i name _ _ _ job text =>
    have hwritten := h.writeManifest name job text
    exact ⟨hwritten.dropped, hwritten.claimed, hwritten.apart⟩
  | read =>
    refine ⟨fun k t ht => h.dropped k t ?_, fun k t d m g ht => h.claimed k t d m g ?_, h.apart⟩
    · rwa [State.setPc, State.read, claims_read] at ht
    · rwa [State.setPc, State.read, claims_read] at ht
  | _ => exact ⟨h.dropped, h.claimed, h.apart⟩

end State.Marked

/-- With nothing dropped there is no mark. -/
theorem marked_empty : (State.empty : State ι ρ).Marked where
  dropped _ _ ht := by cases ht
  claimed _ _ _ _ _ ht := by cases ht
  apart _ _ hfile := by simp [State.empty] at hfile

/-! ## The passes of a worker -/

/-- Worker `i` goes on by itself: nothing is dropped, nobody dies, no candidate changes its
    size, and the importer makes `importer s` of the file. Time may pass. -/
def Undisturbed (i : ι) (importer : State ι ρ → Except String (List ρ)) (s : State ι ρ) :
    Label ι ρ → Prop
  | .tick _ => True
  | .drop .. | .crash _ => False
  | .tryClaim j stable => j = i ∧ stable
  | .importer j outcome => j = i ∧ outcome = importer s
  | .reconcile j _ | .inspect j | .moveBack j | .list j | .read j | .call j _ | .lookUp j
  | .archive j | .writeManifest j | .commit j => j = i

/-- A run of worker `i` by itself. -/
abbrev PassRun [DecidableEq ι] [Fintype ι] (config : Config ρ) (i : ι)
    (importer : State ι ρ → Except String (List ρ)) : State ι ρ → State ι ρ → Prop :=
  Run (step config) (Undisturbed i importer)

/-- The drop waits in `inbox/` under the name, and nothing else has the name in
    `processing/`. -/
def Waiting (s : State ι ρ) (name : String) (k : Nat) : Prop :=
  (∃ file, s.files.file .inbox name = some file ∧ file.origin = some k) ∧
    s.files.file .processing name = none

/-- The drop is in `processing/` under the name, and stale. -/
def Abandoned (s : State ι ρ) (now : Time) (name : String) (k : Nat) : Prop :=
  ∃ file, s.files.file .processing name = some file ∧ file.origin = some k ∧ file.stale now

/-- The number of files that are not in the archive. -/
def pending (s : State ι ρ) : Nat := s.files.count .inbox + s.files.count .processing

/-- There is a committed import job for a file that the archive keeps in the directory. -/
def Settled (config : Config ρ) (s : State ι ρ) (d : Dir) (name : String) (content : List UInt8) :
    Prop :=
  ∃ (id : Id) (job : ImportJob), s.db.importJobs.committed[id]? = some job ∧ Finished job ∧
    destination job = d ∧ HasChecksum config.importers (config.args name content) job

variable {config : Config ρ} {importer : State ι ρ → Except String (List ρ)} {s t : State ι ρ}
  [DecidableEq ι] [Fintype ι] {i : ι} {now : Time} {name n : String} {names : List String} {k : Nat}
  {file : File ι}

/-- One step is a run of the pass. -/
theorem PassRun.one {l : Label ι ρ} (hl : Undisturbed i importer s l)
    (hstep : step config s l = some t) : PassRun config i importer s t :=
  Run.tail l .refl hl hstep

/-- `reconcile_stale_processing` finds no stale file under the next name. -/
theorem inspect_fresh (hpc : s.pc i = .reconciling now (n :: names))
    (hfresh : ∀ file, s.files.file .processing n = some file → ¬ file.stale now) :
    PassRun config i importer s (s.setPc i (.reconciling now names)) := by
  refine .one (l := .inspect i) rfl ?_
  cases hfile : s.files.file .processing n with
  | none => simp [step, hpc, hfile]
  | some file => simp [step, hpc, hfile, hfresh file hfile]

/-- `reconcile_stale_processing` finds the next file stale and moves it back. -/
theorem inspect_stale (hpc : s.pc i = .reconciling now (n :: names))
    (hfile : s.files.file .processing n = some file) (hstale : file.stale now) :
    PassRun config i importer s
      (((s.setPc i (.moving now file n names)).moveBack n file).setPc i
        (.reconciling now names)) := by
  have hinspect : PassRun config i importer s (s.setPc i (.moving now file n names)) :=
    .one (l := .inspect i) rfl (by simp [step, hpc, hfile, hstale])
  have hfile' : (s.setPc i (.moving now file n names)).files.file .processing n = some file :=
    hfile
  exact hinspect.tail (.moveBack i) rfl (by simp [step, hfile'])

omit [DecidableEq ι] [Fintype ι] in
/-- Moving a file back leaves as many to do. -/
theorem pending_moveBack (hfile : s.files.file .processing n = some file) :
    pending (s.moveBack n file) ≤ pending s := by
  have hsrc : (s.files.move .processing .inbox n file).count .processing + 1 =
      s.files.count .processing := FileTree.count_move_src hfile (by decide)
  have hdst : (s.files.move .processing .inbox n file).count .inbox ≤ s.files.count .inbox + 1 :=
    FileTree.count_move_dst (by decide)
  simp only [pending, State.moveBack]
  omega

omit [DecidableEq ι] [Fintype ι] in
/-- Claiming a file leaves as many to do. -/
theorem pending_claim (hfile : s.files.file .inbox n = some file) :
    pending (s.claim i n file) ≤ pending s := by
  simp only [pending, State.claim]
  generalize { file with claim := some (i, s.clock) } = claimed
  have hsrc : (s.files.move .inbox .processing n claimed).count .inbox + 1 =
      s.files.count .inbox := FileTree.count_move_src hfile (by decide)
  have hdst : (s.files.move .inbox .processing n claimed).count .processing ≤
      s.files.count .processing + 1 := FileTree.count_move_dst (by decide)
  omega

/-- `reconcile_stale_processing` leaves a waiting drop alone and moves an abandoned one back,
    whatever else it moves. -/
theorem reconcile_run (hpc : s.pc i = .reconciling now names)
    (h : Waiting s name k ∨ (Abandoned s now name k ∧ name ∈ names)) :
    ∃ u, PassRun config i importer s u ∧ u.pc i = .reconciling now [] ∧ u.db = s.db ∧
      Waiting u name k ∧ pending u ≤ pending s := by
  -- Over the listing: a stale file goes back, a fresh one and one that is gone are passed by.
  induction names generalizing s with
  | nil =>
    obtain hwaiting | ⟨-, hmem⟩ := h
    · exact ⟨s, .refl, hpc, rfl, hwaiting, Nat.le_refl _⟩
    · cases hmem
  | cons n names ih =>
    by_cases hstale : ∃ file, s.files.file .processing n = some file ∧ file.stale now
    · obtain ⟨file, hfile, hstale⟩ := hstale
      have hmoved : PassRun config i importer s _ := inspect_stale hpc hfile hstale
      have hrest : Waiting (((s.setPc i (.moving now file n names)).moveBack n file).setPc i
            (.reconciling now names)) name k ∨
          (Abandoned (((s.setPc i (.moving now file n names)).moveBack n file).setPc i
            (.reconciling now names)) now name k ∧ name ∈ names) := by
        by_cases hn : n = name
        · subst hn
          obtain ⟨-, hnone⟩ | ⟨⟨file', hfile', horigin, -⟩, -⟩ := h
          · cases hnone.symm.trans hfile
          · cases hfile.symm.trans hfile'
            exact .inl ⟨⟨file, FileTree.file_move_dst, horigin⟩,
              FileTree.file_move_src (by decide)⟩
        · refine h.imp (fun hwaiting => ⟨?_, ?_⟩) fun habandoned => ⟨?_, ?_⟩
          · obtain ⟨file', hfile', horigin⟩ := hwaiting.1
            exact ⟨file', (FileTree.file_move_of_ne hn).trans hfile', horigin⟩
          · exact (FileTree.file_move_of_ne hn).trans hwaiting.2
          · obtain ⟨file', hfile', hrest⟩ := habandoned.1
            exact ⟨file', (FileTree.file_move_of_ne hn).trans hfile', hrest⟩
          · exact (List.mem_cons.1 habandoned.2).resolve_left (Ne.symm hn)
      obtain ⟨u, hrun, hpc', hdb, hwaiting, hle⟩ := ih setPc_pc_self hrest
      exact ⟨u, hmoved.trans hrun, hpc', hdb, hwaiting, hle.trans (pending_moveBack hfile)⟩
    · have hpassed : PassRun config i importer s _ := inspect_fresh hpc fun file hfile hs =>
        hstale ⟨file, hfile, hs⟩
      have hrest : Waiting (s.setPc i (.reconciling now names)) name k ∨
          (Abandoned (s.setPc i (.reconciling now names)) now name k ∧ name ∈ names) := by
        refine h.imp id fun habandoned => ⟨habandoned.1, ?_⟩
        refine (List.mem_cons.1 habandoned.2).resolve_left fun hn => ?_
        obtain ⟨file, hfile, -, hs⟩ := habandoned.1
        exact hstale ⟨file, hn ▸ hfile, hs⟩
      obtain ⟨u, hrun, hu⟩ := ih setPc_pc_self hrest
      exact ⟨u, hpassed.trans hrun, hu⟩

variable (config importer) in
/-- A pass claims a file: the drop, or another one while the drop goes on waiting. -/
theorem claim_run (hidle : s.pc i = .idle)
    (h : Waiting s name k ∨ Abandoned s s.clock name k) :
    ∃ (u : State ι ρ) (n : String) (file : File ι), PassRun config i importer s u ∧
      u.pc i = .claimed n ∧ u.db = s.db ∧ u.files.file .processing n = some file ∧
      pending u ≤ pending s ∧
      ((n = name ∧ file.origin = some k) ∨ (n ≠ name ∧ Waiting u name k)) := by
  have hstarted : PassRun config i importer s
      (s.setPc i (.reconciling s.clock (s.files.names .processing))) :=
    .one (l := .reconcile i (s.files.names .processing)) rfl (by simp [step, hidle])
  have hlisted : Waiting s name k ∨
      (Abandoned s s.clock name k ∧ name ∈ s.files.names .processing) := by
    refine h.imp id fun habandoned => ⟨habandoned, FileTree.mem_names.2 ?_⟩
    obtain ⟨file, hfile, -⟩ := habandoned
    exact Option.isSome_of_eq_some hfile
  obtain ⟨v, hreconciled, hpc, hdb, ⟨⟨drop, hdrop, horigin⟩, hnone⟩, hle⟩ :=
    reconcile_run (s := s.setPc i _) setPc_pc_self hlisted
  obtain ⟨n, names, hnames⟩ : ∃ n names, v.files.names .inbox = n :: names :=
    List.exists_cons_of_ne_nil (List.ne_nil_of_mem
      (FileTree.mem_names.2 (Option.isSome_of_eq_some hdrop)))
  obtain ⟨file, hfile⟩ : ∃ file, v.files.file .inbox n = some file :=
    Option.isSome_iff_exists.1 (FileTree.mem_names.1 (by rw [hnames]; exact List.mem_cons_self))
  have hlist : PassRun config i importer v (v.setPc i (.claiming (n :: names))) :=
    .one (l := .list i) rfl (by simp [step, hpc, hnames])
  have hfile' : (v.setPc i (.claiming (n :: names))).files.file .inbox n = some file := hfile
  have hclaim : PassRun config i importer (v.setPc i (.claiming (n :: names)))
      (((v.setPc i (.claiming (n :: names))).claim i n file).setPc i (.claimed n)) :=
    .one (l := .tryClaim i true) ⟨rfl, rfl⟩ (by simp [step, hfile'])
  refine ⟨_, n, { file with claim := some (i, v.clock) },
    ((hstarted.trans hreconciled).trans hlist).trans hclaim, setPc_pc_self, hdb,
    FileTree.file_move_dst, ?_, ?_⟩
  · exact (pending_claim hfile').trans hle
  · -- The worker claims the file itself, or one that stands before it in the listing.
    by_cases hn : n = name
    · subst hn
      cases hdrop.symm.trans hfile
      exact .inl ⟨rfl, horigin⟩
    · exact .inr ⟨hn, ⟨drop, (FileTree.file_move_of_ne hn).trans hdrop, horigin⟩,
        (FileTree.file_move_of_ne hn).trans hnone⟩

variable (config importer) in
/-- `run_import` returns, and touches no file. -/
theorem import_run {bytes : List UInt8} (hpc : s.pc i = .importing name bytes)
    (hidle : s.db.pc i = .idle) :
    ∃ db, PassRun config i importer s { s with db := db } ∧
      ∃ args id job, db.pc i = .returned args id job := by
  obtain ⟨env, hunused, hfresh⟩ := ConcurrentImports.exists_fresh s.db
  -- Each step of the import either returns or goes on to the next.
  obtain ⟨db₁, hcall, hfresh₁, hpc₁⟩ := ConcurrentImports.call_step
    config.importers (config.args name bytes) hidle hunused hfresh
  have hcalled : PassRun config i importer s { s with db := db₁ } :=
    .one (l := .call i env) rfl (by simp [step, hpc, dbStep, hcall])
  obtain hvalidating | ⟨id, job, hreturned⟩ := hpc₁
  case inr => exact ⟨db₁, hcalled, _, id, job, hreturned⟩
  obtain ⟨db₂, hlookUp, hfresh₂, hpc₂⟩ := ConcurrentImports.lookUp_step
    config.importers hvalidating hfresh₁
  have hlooked : PassRun config i importer { s with db := db₁ } { s with db := db₂ } :=
    .one (l := .lookUp i) rfl (by simp [step, hpc, dbStep, hlookUp])
  obtain ⟨job, himporting⟩ | ⟨id, job, hreturned⟩ := hpc₂
  case inr => exact ⟨db₂, hcalled.trans hlooked, _, id, job, hreturned⟩
  obtain ⟨db₃, himporter, id, job, hreturned⟩ := ConcurrentImports.importer_step
    config.importers himporting hfresh₂ (importer { s with db := db₂ })
  have himported : PassRun config i importer { s with db := db₂ } { s with db := db₃ } :=
    .one (l := .importer i (importer { s with db := db₂ })) ⟨rfl, rfl⟩
      (by simp [step, hpc, dbStep, himporter])
  exact ⟨db₃, (hcalled.trans hlooked).trans himported, _, id, job, hreturned⟩

/-- The link holds along the pass. -/
theorem State.Linked.run (h : s.Linked config) (hrun : PassRun config i importer s t) :
    t.Linked config :=
  hrun.invariant h fun _ _ _ h _ hl => h.step (step_effect hl)

variable (config importer) in
/-- The rest of the pass when `run_import` has returned. -/
theorem archive_run {bytes : List UInt8} {args : ImportArgs} {id : Id} {job : ImportJob}
    (hpc : s.pc i = .importing name bytes) (hreturned : s.db.pc i = .returned args id job)
    (hfile : s.files.file .processing name = some file) :
    ∃ u text, PassRun config i importer s u ∧ u.pc i = .idle ∧ u.db = s.db.commit i ∧
      u.files = (s.files.move .processing (destination job) name file).put (destination job)
        (manifestName name) text := by
  -- The file moves first, then the manifest is written, and the commit comes last.
  have harchive : PassRun config i importer s
      ((s.archive name file job).setPc i (.archived name bytes)) :=
    .one (l := .archive i) rfl (by simp [step, hpc, hreturned, hfile])
  generalize ht : (s.archive name file job).setPc i (.archived name bytes) = t at harchive
  have hpct : t.pc i = .archived name bytes := by rw [← ht, setPc_pc_self]
  have hreturnedt : t.db.pc i = .returned args id job := by rw [← ht]; exact hreturned
  have hwrite : PassRun config i importer t
      ((t.writeManifest name job (config.manifestText (manifest name id job))).setPc i
        (.written name bytes)) :=
    .one (l := .writeManifest i) rfl (by simp [step, hpct, hreturnedt])
  generalize hv : (t.writeManifest name job (config.manifestText (manifest name id job))).setPc i
    (.written name bytes) = v at hwrite
  have hpcv : v.pc i = .written name bytes := by rw [← hv, setPc_pc_self]
  have hdbv : v.db = t.db := by rw [← hv]; rfl
  have hcommit : PassRun config i importer v ({ v with db := v.db.commit i }.setPc i .idle) := by
    refine .one (l := .commit i) rfl ?_
    simp [step, hpcv, dbStep, ConcurrentImports.step, hdbv, hreturnedt]
  refine ⟨_, ⟨config.manifestText (manifest name id job), s.clock, none, none⟩,
    (harchive.trans hwrite).trans hcommit, setPc_pc_self, ?_, ?_⟩
  · rw [hdbv, ← ht]
    rfl
  · rw [← hv, ← ht]
    rfl

variable (importer) in
/-- A worker archives the file that it has claimed, with a committed import job. -/
theorem process_run (hlinked : s.Linked config) (hpc : s.pc i = .claimed name)
    (hfile : s.files.file .processing name = some file) :
    ∃ (u : State ι ρ) (d : Dir) (text : File ι), PassRun config i importer s u ∧
      u.pc i = .idle ∧ (d ≠ .inbox ∧ d ≠ .processing) ∧
      u.files = (s.files.move .processing d name file).put d (manifestName name) text ∧
      Settled config u d name file.content := by
  -- Read, import, archive: each phase begins where the one before it ended.
  have hread : PassRun config i importer s
      ((s.read i file).setPc i (.importing name file.content)) :=
    .one (l := .read i) rfl (by simp [step, hpc, hfile])
  obtain ⟨db, himport, args, id, job, hreturned⟩ := import_run config importer
    (s := (s.read i file).setPc i (.importing name file.content)) setPc_pc_self
    (hlinked.idle hpc rfl)
  have himported := hread.trans himport
  have hlinked' := hlinked.run himported
  generalize ht : ({ (s.read i file).setPc i (.importing name file.content) with db := db } :
    State ι ρ) = t at himported hlinked'
  have hpct : t.pc i = .importing name file.content := by rw [← ht]; exact setPc_pc_self
  have hreturnedt : t.db.pc i = .returned args id job := by rw [← ht]; exact hreturned
  have hfiles : t.files = s.files := by rw [← ht]; rfl
  have hargs : args = config.args name file.content := by
    have hsession := hlinked'.sessions i
    rw [hpct, hreturnedt] at hsession
    exact hsession args rfl
  subst hargs
  obtain ⟨u, text, harchive, hidle, hdb, hfilesu⟩ := archive_run config importer hpct hreturnedt
    (hfiles ▸ hfile)
  refine ⟨u, destination job, text, himported.trans harchive, hidle, destination_archive,
    hfiles ▸ hfilesu, id, job, ?_, ?_, rfl, ?_⟩
  · rw [hdb]
    exact hlinked'.db.commit_returned hreturnedt
  · exact (hlinked'.db.wrote_returned hreturnedt).2.1
  · exact (hlinked'.db.wrote_returned hreturnedt).2.2

/-! ## Recovery -/

omit [DecidableEq ι] [Fintype ι] in
/-- A manifest is never named like its file. -/
theorem manifestName_ne (name : String) : manifestName name ≠ name := by
  intro heq
  have hlength := congrArg String.length heq
  rw [manifestName, String.length_append] at hlength
  simp at hlength

/-- The drop is in the archive, with a committed import job. -/
def Archived (config : Config ρ) (s : State ι ρ) (k : Nat) : Prop :=
  ∃ d name file, s.files.file d name = some file ∧ file.origin = some k ∧
    Settled config s d name file.content

/-- The passes of a worker come to every drop that waits or has been abandoned: each of them
    takes a file out of `inbox/` and `processing/`. -/
theorem passes_run (hlinked : s.Linked config) (hidle : s.pc i = .idle)
    (h : Waiting s name k ∨ Abandoned s s.clock name k) :
    ∃ u, PassRun config i importer s u ∧ u.pc i = .idle ∧ Archived config u k := by
  -- On the number of files still to do: each pass archives one.
  induction hm : pending s using Nat.strong_induction_on generalizing s with
  | _ m ih =>
  subst hm
  obtain ⟨t, n, file, hclaim, hclaimed, -, hfile, hle, hnext⟩ := claim_run config importer hidle h
  obtain ⟨u, d, text, hprocess, hidle', ⟨hinbox, hprocessing⟩, hfiles, hsettled⟩ :=
    process_run importer (hlinked.run hclaim) hclaimed hfile
  obtain ⟨rfl, horigin⟩ | ⟨hne, ⟨drop, hdrop, horigin⟩, hnone⟩ := hnext
  · refine ⟨u, hclaim.trans hprocess, hidle', d, n, file, ?_, horigin, hsettled⟩
    rw [hfiles, FileTree.file_put_of_ne (manifestName_ne n), FileTree.file_move_dst]
  · have hkept : ∀ d', d ≠ d' → u.files.file d' name = t.files.file d' name := by
      intro d' hd'
      rw [hfiles, FileTree.file_put, if_neg fun hp => hd' hp.1, FileTree.file_move_of_ne hne]
    have hwaiting : Waiting u name k :=
      ⟨⟨drop, (hkept _ hinbox).trans hdrop, horigin⟩, (hkept _ hprocessing).trans hnone⟩
    have hless : pending u < pending s := by
      have hsrc := FileTree.count_move_src (f := file) hfile hprocessing
      have hrest : (t.files.move .processing d n file).count .inbox = t.files.count .inbox :=
        FileTree.count_move_ne (by decide) (Ne.symm hinbox)
      have hu : pending u = (t.files.move .processing d n file).count .inbox +
          (t.files.move .processing d n file).count .processing := by
        rw [pending, hfiles, FileTree.count_put_ne (Ne.symm hinbox),
          FileTree.count_put_ne (Ne.symm hprocessing)]
      simp only [pending] at hle ⊢ hu
      omega
    obtain ⟨v, hrest, hv⟩ := ih _ hless (hlinked.run (hclaim.trans hprocess)) hidle'
      (.inl hwaiting) rfl
    exact ⟨v, (hclaim.trans hprocess).trans hrest, hv⟩

variable (importer) in
/-- A claimed file that is not in the archive is archived by later passes of any idle worker,
    whatever has happened to the worker that has claimed it. -/
theorem claimed_recoverable (hlinked : s.Linked config) (hmarked : s.Marked)
    (hidle : s.pc i = .idle) {t : Time} {d : Dir} (hclaimed : (k, t) ∈ claims s.history)
    (hfile : s.files.file d name = some file) (horigin : file.origin = some k)
    (hd : d = .inbox ∨ d = .processing) :
    ∃ u, PassRun config i importer s u ∧ u.pc i = .idle ∧ Archived config u k := by
  obtain rfl | rfl := hd
  · have hmark : file.claim ≠ none := hmarked.claimed k t .inbox name file hclaimed hfile horigin
    exact passes_run hlinked hidle
      (.inl ⟨⟨file, hfile, horigin⟩, hmarked.apart name file hfile hmark⟩)
  · -- the file is stale after some time
    let later : State ι ρ := { s with clock := s.clock + (file.mtime + staleSeconds + 1) }
    have htick : PassRun config i importer s later :=
      .one (l := .tick (file.mtime + staleSeconds + 1)) trivial rfl
    have hstale : file.stale later.clock := Nat.lt_add_left s.clock (Nat.lt_succ_self _)
    have habandoned : Abandoned later later.clock name k := ⟨file, hfile, horigin, hstale⟩
    obtain ⟨u, hrun, hu⟩ := passes_run (hlinked.run htick) hidle (.inr habandoned)
    exact ⟨u, htick.trans hrun, hu⟩

end MiniGrc.ImportDirectory
