import MiniGrc.Spec.ImportDirectory

/-!
# Claims on watched files

`reconcile_stale_processing` goes by the modification time of a file, which the renames
leave as it was when the file was dropped. Along every run in which a file that has been
claimed lately also looks recent when it is inspected, what is renamed back is what has
been inspected, and a worker reads what it has claimed (`ClaimsKept`), no claim is taken
away within the window, and only the claimant processes the file. An old file that is
claimed is moved back by the next worker's pass at once.

## Key results

- `claims_kept`: the runs under the condition
- `claims_kept_oldFile`: a file that was old when it was dropped
-/

namespace MiniGrc.ImportDirectory

open JobRuns Imports

variable {ι ρ : Type}

/-- The name that `reconcile_stale_processing` looks at next, and its reading of the clock. -/
def Pc.inspects : Pc ι → Option (Time × String)
  | .reconciling now (name :: _) => some (now, name)
  | _ => none

/-- The file that `reconcile_stale_processing` renames next, as it was found, and its name. -/
def Pc.movesBack : Pc ι → Option (File ι × String)
  | .moving _ found name _ => some (found, name)
  | _ => none

/-- The name of the file that the worker reads next. -/
def Pc.reads : Pc ι → Option String
  | .claimed name => some name
  | _ => none

/-- A file that has been claimed less than `stale_seconds` before `now` is not stale either. -/
def YoungWhenClaimed (file : File ι) (now : Time) : Prop :=
  ∀ c ∈ file.claim, now < c.2 + staleSeconds → ¬ file.stale now

instance (file : File ι) (now : Time) : Decidable (YoungWhenClaimed file now) :=
  inferInstanceAs (Decidable (∀ c ∈ file.claim, now < c.2 + staleSeconds → ¬ file.stale now))

/-- Files in `processing/` that have been claimed lately look recent, what is renamed back is
    what has been found stale, and a worker reads what it has claimed itself. -/
def ClaimsKept (s : State ι ρ) : Label ι ρ → Prop
  | .inspect i => ∀ x ∈ (s.pc i).inspects, ∀ file ∈ s.files.file .processing x.2,
    YoungWhenClaimed file x.1
  | .moveBack i => ∀ x ∈ (s.pc i).movesBack, ∀ file ∈ s.files.file .processing x.2, file = x.1
  | .read i => ∀ name ∈ (s.pc i).reads, ∀ file ∈ s.files.file .processing name,
    file.claim.map Prod.fst = some i
  | _ => True

instance [DecidableEq ι] (s : State ι ρ) : DecidablePred (ClaimsKept s)
  | .inspect i => inferInstanceAs (Decidable (∀ x ∈ (s.pc i).inspects,
      ∀ file ∈ s.files.file .processing x.2, YoungWhenClaimed file x.1))
  | .moveBack i => inferInstanceAs (Decidable (∀ x ∈ (s.pc i).movesBack,
      ∀ file ∈ s.files.file .processing x.2, file = x.1))
  | .read i => inferInstanceAs (Decidable (∀ name ∈ (s.pc i).reads,
      ∀ file ∈ s.files.file .processing name, file.claim.map Prod.fst = some i))
  | .drop .. | .tick _ | .reconcile .. | .list _ | .tryClaim .. | .call .. | .lookUp _
  | .importer .. | .archive _ | .writeManifest _ | .commit _ | .crash _ => .isTrue trivial

/-! ## The claims of a history -/

/-- The drop that an event claims, and when. -/
def Event.asClaim : Event ι → Option (Nat × Time)
  | .claimed (some k) _ time => some (k, time)
  | _ => none

/-- The claims of a history. -/
def claims (history : List (Event ι)) : List (Nat × Time) := history.filterMap Event.asClaim

/-- A file moved back is claimed by nobody new. -/
@[simp] theorem claims_movedBack (h : List (Event ι)) (k : Option Nat) (since : Option Time)
    (t : Time) : claims (h ++ [.movedBack k since t]) = claims h := by
  simp [claims, Event.asClaim]

/-- Reading a file claims nothing. -/
@[simp] theorem claims_read (h : List (Event ι)) (k : Option Nat) (i : ι) (j : Option ι) :
    claims (h ++ [.read k i j]) = claims h := by
  simp [claims, Event.asClaim]

/-- Claiming a file adds the claim of its drop. -/
theorem claims_claimed {origin : Option Nat} {k : Nat} (horigin : origin = some k)
    (h : List (Event ι)) (i : ι) (t : Time) :
    claims (h ++ [.claimed origin i t]) = claims h ++ [(k, t)] := by
  simp [claims, Event.asClaim, horigin]

/-- Claiming a manifest is no claim of a drop. -/
theorem claims_manifest {origin : Option Nat} (horigin : origin = none) (h : List (Event ι))
    (i : ι) (t : Time) : claims (h ++ [.claimed origin i t]) = claims h := by
  simp [claims, Event.asClaim, horigin]

/-- No file is moved back within `stale_seconds` of its claim, two claims of one file are as
    far apart, and only the claimant of a file reads it. -/
structure NotReclaimed (history : List (Event ι)) : Prop where
  movedBack : ∀ k since t, .movedBack k (some since) t ∈ history → since + staleSeconds ≤ t
  claims : (claims history).Pairwise fun x y => x.1 = y.1 → x.2 + staleSeconds ≤ y.2
  reads : ∀ k i claimant, .read k i claimant ∈ history → claimant = some i

/-! ## The invariant -/

/-- How the claims on files and the history of claims go together: a file in `processing/`
    bears its last claim, and the claims on a file in `inbox/` are over. -/
structure Aged (files : Files ι) (claimed : List (Nat × Time)) (clock : Time) : Prop where
  processing : ∀ name file k, files.file .processing name = some file → file.origin = some k →
    ∃ c, file.claim = some c ∧ ∀ t, (k, t) ∈ claimed → t ≤ c.2
  inbox : ∀ name file k, files.file .inbox name = some file → file.origin = some k →
    ∀ t, (k, t) ∈ claimed → t + staleSeconds ≤ clock

/-- What holds in every state of a run under the condition. -/
structure State.Dated (s : State ι ρ) : Prop where
  notReclaimed : NotReclaimed s.history
  aged : Aged s.files (claims s.history) s.clock
  past : ∀ k t, (k, t) ∈ claims s.history → k < s.dropped.length ∧ t ≤ s.clock
  reconciling : ∀ i now names, s.pc i = .reconciling now names → now ≤ s.clock
  moving : ∀ i now found name names, s.pc i = .moving now found name names →
    now ≤ s.clock ∧ ∀ c, found.claim = some c → c.2 + staleSeconds ≤ now

namespace Aged

variable {files : Files ι} {claimed : List (Nat × Time)} {clock clock' : Time} {name : String}
  {file : File ι}

/-- What is old enough stays old enough. -/
theorem mono (h : Aged files claimed clock) (hle : clock ≤ clock') : Aged files claimed clock' :=
  ⟨h.processing, fun name file k hfile hk t ht => (h.inbox name file k hfile hk t ht).trans hle⟩

/-- A file that is not in `inbox/` or `processing/` has no claims to keep. -/
theorem put_archive (h : Aged files claimed clock) (d : Dir) (hd : d ≠ .inbox ∧ d ≠ .processing) :
    Aged (files.put d name file) claimed clock := by
  constructor
  · intro m g k hg
    rw [FileTree.file_put, if_neg fun hm => hd.2 hm.1] at hg
    exact h.processing m g k hg
  · intro m g k hg
    rw [FileTree.file_put, if_neg fun hm => hd.1 hm.1] at hg
    exact h.inbox m g k hg

/-- Archiving a file leaves the ages of the claims. -/
theorem move_archive (h : Aged files claimed clock) (d : Dir)
    (hd : d ≠ .inbox ∧ d ≠ .processing) :
    Aged (files.move .processing d name file) claimed clock := by
  constructor
  · intro m g k hg
    rw [FileTree.file_move, if_neg fun hm => hd.2 hm.1] at hg
    split at hg
    · cases hg
    · exact h.processing m g k hg
  · intro m g k hg
    rw [FileTree.file_move, if_neg fun hm => hd.1 hm.1, if_neg fun hm => Dir.noConfusion hm.1] at hg
    exact h.inbox m g k hg

/-- A new drop has not been claimed. -/
theorem drop (h : Aged files claimed clock) {k : Nat} (horigin : file.origin = some k)
    (hnew : ∀ t, (k, t) ∉ claimed) : Aged (files.put .inbox name file) claimed clock := by
  constructor
  · intro m g k' hg
    rw [FileTree.file_put, if_neg fun hm => Dir.noConfusion hm.1] at hg
    exact h.processing m g k' hg
  · intro m g k' hg hk' t ht
    rw [FileTree.file_put] at hg
    split at hg
    · cases hg
      cases horigin.symm.trans hk'
      exact absurd ht (hnew t)
    · exact h.inbox m g k' hg hk' t ht

/-- The claim on a file that is moved back is over. -/
theorem moveBack (h : Aged files claimed clock) (hfile : files.file .processing name = some file)
    (hover : ∀ c, file.claim = some c → c.2 + staleSeconds ≤ clock) :
    Aged (files.move .processing .inbox name file) claimed clock := by
  -- The file leaves `processing/`, and in `inbox/` every claim of it is old.
  constructor
  · intro m g k hg
    rw [FileTree.file_move, if_neg fun hm => Dir.noConfusion hm.1] at hg
    split at hg
    · cases hg
    · exact h.processing m g k hg
  · intro m g k hg hk t ht
    rw [FileTree.file_move] at hg
    split at hg
    · cases hg
      obtain ⟨c, hc, hlast⟩ := h.processing name file k hfile hk
      exact (Nat.add_le_add_right (hlast t ht) _).trans (hover c hc)
    · rw [if_neg fun hm => Dir.noConfusion hm.1] at hg
      exact h.inbox m g k hg hk t ht

/-- A claim is the last one on its file, and touches no other file. -/
theorem claim (h : Aged files claimed clock) (honce : files.AtMostOnce File.origin) {k : Nat}
    (hfile : files.file .inbox name = some file) (horigin : file.origin = some k) (i : ι)
    (hpast : ∀ t, (k, t) ∈ claimed → t ≤ clock) :
    Aged (files.move .inbox .processing name { file with claim := some (i, clock) })
      (claimed ++ [(k, clock)]) clock := by
  -- the claimed file is nowhere else
  have hother : ∀ d m g k', files.file d m = some g → g.origin = some k' → k' = k →
      (d, m) = (Dir.inbox, name) := fun d m g k' hg hk' heq =>
    honce k (d, m) (.inbox, name) ⟨g, hg, heq ▸ hk'⟩ ⟨file, hfile, horigin⟩
  constructor
  · intro m g k' hg hk'
    rw [FileTree.file_move] at hg
    split at hg
    · cases hg
      cases horigin.symm.trans hk'
      refine ⟨_, rfl, fun t ht => ?_⟩
      obtain ht | ht := List.mem_append.1 ht
      · exact hpast t ht
      · cases List.mem_singleton.1 ht
        exact Nat.le_refl _
    · rw [if_neg fun hm => Dir.noConfusion hm.1] at hg
      obtain ⟨c, hc, hlast⟩ := h.processing m g k' hg hk'
      refine ⟨c, hc, fun t ht => ?_⟩
      obtain ht | ht := List.mem_append.1 ht
      · exact hlast t ht
      · cases List.mem_singleton.1 ht
        cases hother _ m g k hg hk' rfl
  · intro m g k' hg hk' t ht
    rw [FileTree.file_move, if_neg fun hm => Dir.noConfusion hm.1] at hg
    split at hg
    · cases hg
    · next hne =>
      obtain ht | ht := List.mem_append.1 ht
      · exact h.inbox m g k' hg hk' t ht
      · cases List.mem_singleton.1 ht
        cases hother _ m g k hg hk' rfl
        exact absurd ⟨rfl, rfl⟩ hne

/-- A file that comes from no drop has no claims to keep either. -/
theorem claim_manifest (h : Aged files claimed clock) (horigin : file.origin = none) (i : ι) :
    Aged (files.move .inbox .processing name { file with claim := some (i, clock) }) claimed
      clock := by
  -- A manifest has no mark, so no claim is to be old.
  constructor
  · intro m g k hg hk
    rw [FileTree.file_move] at hg
    split at hg
    · cases hg
      cases horigin.symm.trans hk
    · rw [if_neg fun hm => Dir.noConfusion hm.1] at hg
      exact h.processing m g k hg hk
  · intro m g k hg
    rw [FileTree.file_move, if_neg fun hm => Dir.noConfusion hm.1] at hg
    split at hg
    · cases hg
    · exact h.inbox m g k hg

end Aged

namespace NotReclaimed

variable {h : List (Event ι)} {origin : Option Nat} {t : Time}

/-- A file is moved back only after its claim has grown stale. -/
theorem append_movedBack (hn : NotReclaimed h) {since : Option Time}
    (hover : ∀ c, since = some c → c + staleSeconds ≤ t) :
    NotReclaimed (h ++ [.movedBack origin since t]) where
  movedBack k c t' hmem := by
    obtain hmem | hmem := List.mem_append.1 hmem
    · exact hn.movedBack k c t' hmem
    · cases List.mem_singleton.1 hmem
      exact hover c rfl
  claims := by rw [claims_movedBack]; exact hn.claims
  reads k i claimant hmem := hn.reads k i claimant (by simpa using hmem)

/-- A claim comes when every earlier one of the same drop is stale. -/
theorem append_claimed (hn : NotReclaimed h) {i : ι}
    (hover : ∀ k, origin = some k → ∀ t', (k, t') ∈ ImportDirectory.claims h →
      t' + staleSeconds ≤ t) : NotReclaimed (h ++ [.claimed origin i t]) where
  movedBack k c t' hmem := hn.movedBack k c t' (by simpa using hmem)
  claims := by
    -- A manifest adds no claim; of a drop, every earlier claim is old by `hover`.
    cases origin with
    | none => rw [claims_manifest rfl]; exact hn.claims
    | some k =>
      rw [claims_claimed rfl, List.pairwise_append]
      refine ⟨hn.claims, List.pairwise_singleton _ _, fun x hx y hy heq => ?_⟩
      cases List.mem_singleton.1 hy
      have hkey : x.1 = k := heq
      subst hkey
      exact hover x.1 rfl x.2 hx
  reads k j claimant hmem := hn.reads k j claimant (by simpa using hmem)

/-- Reading a file one has claimed keeps the order of the claims. -/
theorem append_read (hn : NotReclaimed h) (i : ι) :
    NotReclaimed (h ++ [.read origin i (some i)]) where
  movedBack k c t' hmem := hn.movedBack k c t' (by simpa using hmem)
  claims := by rw [claims_read]; exact hn.claims
  reads k j claimant hmem := by
    obtain hmem | hmem := List.mem_append.1 hmem
    · exact hn.reads k j claimant hmem
    · cases List.mem_singleton.1 hmem
      rfl

end NotReclaimed

/-- The worker is in `reconcile_stale_processing`. -/
def Pc.reconciles : Pc ι → Bool
  | .reconciling .. | .moving .. => true
  | _ => false

namespace State.Dated

variable {config : Config ρ} {s u : State ι ρ} {l : Label ι ρ} [DecidableEq ι]

/-- Moving a worker on to a point where it has found nothing stale. -/
theorem setPc (h : s.Dated) (i : ι) {pc : Pc ι}
    (hreconciling : ∀ now names, pc = .reconciling now names → now ≤ s.clock)
    (hmoving : ∀ now found name names, pc = .moving now found name names →
      now ≤ s.clock ∧ ∀ c, found.claim = some c → c.2 + staleSeconds ≤ now) :
    (s.setPc i pc).Dated where
  notReclaimed := h.notReclaimed
  aged := h.aged
  past := h.past
  -- Only the worker that moves on has something new to show.
  reconciling j now names hj := by
    by_cases hji : j = i
    · subst hji
      rw [setPc_pc_self] at hj
      exact hreconciling now names hj
    · rw [setPc_pc_ne hji] at hj
      exact h.reconciling j now names hj
  moving j now found name names hj := by
    by_cases hji : j = i
    · subst hji
      rw [setPc_pc_self] at hj
      exact hmoving now found name names hj
    · rw [setPc_pc_ne hji] at hj
      exact h.moving j now found name names hj

/-- Moving a worker on to a point outside `reconcile_stale_processing`. -/
theorem setPc_other (h : s.Dated) (i : ι) {pc : Pc ι} (hpc : pc.reconciles = false) :
    (s.setPc i pc).Dated := by
  refine h.setPc i (fun now names heq => ?_) fun now found name names heq => ?_
  · subst heq
    cases hpc
  · subst heq
    cases hpc

omit [DecidableEq ι] in
/-- A file dropped has no claim. -/
theorem drop (h : s.Dated) (name : String) (content : List UInt8) (mtime : Time) :
    (s.drop name content mtime).Dated where
  notReclaimed := h.notReclaimed
  aged := h.aged.drop rfl fun t ht => absurd (h.past _ t ht).1 (Nat.lt_irrefl _)
  past k t ht := by
    have ⟨hlt, hle⟩ := h.past k t ht
    refine ⟨?_, hle⟩
    rw [State.drop, List.length_append]
    exact Nat.lt_add_right _ hlt
  reconciling := h.reconciling
  moving := h.moving

omit [DecidableEq ι] in
/-- A file moved back is one whose claim is stale. -/
theorem moveBack (h : s.Dated) {name : String} {file : File ι} {now : Time}
    (hfile : s.files.file .processing name = some file) (hnow : now ≤ s.clock)
    (hover : ∀ c, file.claim = some c → c.2 + staleSeconds ≤ now) :
    (s.moveBack name file).Dated where
  notReclaimed := by
    refine h.notReclaimed.append_movedBack fun c hc => ?_
    obtain ⟨x, hx, rfl⟩ := Option.map_eq_some_iff.1 hc
    exact (hover x hx).trans hnow
  aged := by
    rw [State.moveBack, claims_movedBack]
    exact h.aged.moveBack hfile fun c hc => (hover c hc).trans hnow
  past := by
    rw [State.moveBack, claims_movedBack]
    exact h.past
  reconciling := h.reconciling
  moving := h.moving

omit [DecidableEq ι] in
/-- A claim is dated with the time at which it is made. -/
theorem claim (h : s.Dated) (htagged : s.Tagged) {i : ι} {name : String} {file : File ι}
    (hfile : s.files.file .inbox name = some file) : (s.claim i name file).Dated where
  notReclaimed := h.notReclaimed.append_claimed fun k hk t ht =>
    h.aged.inbox name file k hfile hk t ht
  aged := by
    -- A manifest has no mark, so no claim is to be old.
    cases horigin : file.origin with
    | none =>
      rw [State.claim, claims_manifest horigin]
      exact h.aged.claim_manifest horigin i
    | some k =>
      rw [State.claim, claims_claimed horigin]
      exact h.aged.claim htagged.once hfile horigin i fun t ht => (h.past k t ht).2
  past k t ht := by
    cases horigin : file.origin with
    | none =>
      rw [State.claim, claims_manifest horigin] at ht
      exact h.past k t ht
    | some k' =>
      rw [State.claim, claims_claimed horigin] at ht
      obtain ht | ht := List.mem_append.1 ht
      · exact h.past k t ht
      · cases List.mem_singleton.1 ht
        obtain ⟨hlt, -⟩ := List.getElem?_eq_some_iff.1 (htagged.contents _ _ _ _ hfile horigin)
        exact ⟨hlt, Nat.le_refl _⟩
  reconciling := h.reconciling
  moving := h.moving

/-- Every step under the condition keeps the invariant. -/
theorem step (h : s.Dated) (htagged : s.Tagged) (hok : ClaimsKept s l)
    (he : Effect config s l u) : u.Dated := by
  -- Time passes, a file is claimed or moved back; every other step moves a worker on.
  cases he with
  | dropped => exact h.drop _ _ _
  | ticked =>
    exact ⟨h.notReclaimed, h.aged.mono (Nat.le_add_right _ _),
      fun k t ht => ⟨(h.past k t ht).1, (h.past k t ht).2.trans (Nat.le_add_right _ _)⟩,
      fun i now names hpc => (h.reconciling i now names hpc).trans (Nat.le_add_right _ _),
      fun i now found name names hpc => ⟨(h.moving i now found name names hpc).1.trans
        (Nat.le_add_right _ _), (h.moving i now found name names hpc).2⟩⟩
  | reconciled =>
    refine h.setPc _ (fun now names hpc => ?_) fun _ _ _ _ hpc => by cases hpc
    cases hpc
    exact Nat.le_refl _
  | @foundStale i now name names file hpc hfile hstale =>
    refine h.setPc _ (fun _ _ heq => by cases heq) fun _ _ _ _ heq => ?_
    cases heq
    refine ⟨h.reconciling i _ _ hpc, fun c hc => ?_⟩
    have hyoung := hok (now, name) (by rw [hpc]; rfl) file hfile c hc
    exact Nat.le_of_not_lt fun hlt => hyoung hlt hstale
  | @foundFresh i now name names hpc =>
    refine h.setPc _ (fun _ _ heq => ?_) fun _ _ _ _ heq => by cases heq
    cases heq
    exact h.reconciling i _ _ hpc
  | @movedBack i now found name names file hpc hfile =>
    have hfound : file = found := hok (found, name) (by rw [hpc]; rfl) file hfile
    subst hfound
    obtain ⟨hnow, hover⟩ := h.moving i _ _ _ _ hpc
    refine (h.moveBack hfile hnow hover).setPc _ (fun _ _ heq => ?_)
      fun _ _ _ _ heq => by cases heq
    cases heq
    exact hnow
  | @claimed i name names file hpc hfile =>
    exact (h.claim htagged hfile).setPc_other _ rfl
  | @read i name file hpc hfile =>
    have hown : file.claim.map Prod.fst = some i := hok name (by rw [hpc]; rfl) file hfile
    have hread : (s.read i file).Dated := by
      refine ⟨?_, ?_, ?_, h.reconciling, h.moving⟩
      · rw [State.read, hown]
        exact h.notReclaimed.append_read i
      · rw [State.read, claims_read]
        exact h.aged
      · rw [State.read, claims_read]
        exact h.past
    exact hread.setPc_other _ rfl
  | @archived i name rawBytes args id job file _ _ _ =>
    have hmoved : (s.archive name file job).Dated := ⟨h.notReclaimed,
      h.aged.move_archive _ destination_archive, h.past, h.reconciling, h.moving⟩
    exact hmoved.setPc_other _ rfl
  | @wrote i name rawBytes args id job text _ _ =>
    have hwritten : (s.writeManifest name job text).Dated := ⟨h.notReclaimed,
      h.aged.put_archive _ destination_archive, h.past, h.reconciling, h.moving⟩
    exact hwritten.setPc_other _ rfl
  | listed => exact h.setPc_other _ rfl
  | foundNothing => exact h.setPc_other _ rfl
  | passedOver => exact h.setPc_other _ rfl
  | called => exact ⟨h.notReclaimed, h.aged, h.past, h.reconciling, h.moving⟩
  | lookedUp => exact ⟨h.notReclaimed, h.aged, h.past, h.reconciling, h.moving⟩
  | imported => exact ⟨h.notReclaimed, h.aged, h.past, h.reconciling, h.moving⟩
  | @committed i =>
    have hdb : ({ s with db := s.db.commit i } : State ι ρ).Dated :=
      ⟨h.notReclaimed, h.aged, h.past, h.reconciling, h.moving⟩
    exact hdb.setPc_other _ rfl
  | @crashed i =>
    have hidle : (s.setPc i .idle).Dated := h.setPc_other i rfl
    exact ⟨hidle.notReclaimed, hidle.aged, hidle.past, hidle.reconciling, hidle.moving⟩

end State.Dated

/-- Before the first drop nothing is claimed. -/
theorem dated_empty : (State.empty : State ι ρ).Dated where
  notReclaimed := ⟨fun _ _ _ hmem => absurd hmem List.not_mem_nil, .nil,
    fun _ _ _ hmem => absurd hmem List.not_mem_nil⟩
  aged := ⟨fun _ _ _ hfile => by simp [State.empty] at hfile,
    fun _ _ _ hfile => by simp [State.empty] at hfile⟩
  past _ _ ht := by cases ht
  reconciling _ _ _ hpc := by cases hpc
  moving _ _ _ _ _ hpc := by cases hpc

/-- In every run under the condition, no claim on a file is taken away within
    `stale_seconds`, and only its claimant processes a file. -/
theorem claims_kept [DecidableEq ι] [Fintype ι] {config : Config ρ} {s : State ι ρ}
    (h : Run (step config) ClaimsKept .empty s) : NotReclaimed s.history := by
  have hinv : s.Tagged ∧ s.Dated := by
    refine h.invariant (P := fun s => s.Tagged ∧ s.Dated) ⟨tagged_empty, dated_empty⟩
      fun s l u hs hok hl => ?_
    exact ⟨hs.1.step (step_effect hl), hs.2.step hs.1 hok (step_effect hl)⟩
  exact hinv.2.notReclaimed

/-- Worker `i` finds `risks.csv` in `processing/` stale, moves it back and claims it. -/
def reclaim (i : Fin 2) : List (Label (Fin 2) String) :=
  [.reconcile i ["risks.csv"], .inspect i, .moveBack i, .list i, .tryClaim i true]

/-- Worker 0 dies with a file that was new when it was claimed; worker 1 leaves the file
    alone at first and reclaims it after 400 seconds. -/
theorem claims_kept_newFile :
    ∃ s : State (Fin 2) String, NotReclaimed s.history ∧
      claims s.history = [(0, 1000000000), (0, 1400000000)] := by
  have hrun : ∃ s, Run.exec (Run.guarded (step riskDirectory) ClaimsKept) .empty
      (.tick 1000000000 :: .drop "risks.csv" leakCsv 1000000000 :: claimFirst 0 [] ++
        .crash 0 :: claimFirst 1 ["risks.csv"] ++ .tick 400000000 :: reclaim 1) = some s ∧
      claims s.history = [(0, 1000000000), (0, 1400000000)] := ⟨_, rfl, rfl⟩
  obtain ⟨s, hs, hclaims⟩ := hrun
  exact ⟨s, claims_kept (Run.of_exec_guarded _ hs), hclaims⟩

/-- A file that is more than a quarter of an hour old is claimed by worker 0; a microsecond
    later worker 1 reclaims it. -/
theorem claims_kept_oldFile :
    ¬ ∀ s : State (Fin 2) String,
      Run (step riskDirectory) (fun _ _ => True) .empty s → NotReclaimed s.history := by
  intro hall
  have hrun : ∃ s, Run.exec (step riskDirectory) .empty
      (.tick 1000000000 :: .drop "risks.csv" leakCsv 0 :: claimFirst 0 [] ++
        .tick 1 :: reclaim 1) = some s ∧
      claims s.history = [(0, 1000000000), (0, 1000000001)] := ⟨_, rfl, rfl⟩
  obtain ⟨s, hs, hclaims⟩ := hrun
  have hapart := (hall s (Run.of_exec_true _ hs)).claims
  rw [hclaims] at hapart
  revert hapart
  decide

end MiniGrc.ImportDirectory
