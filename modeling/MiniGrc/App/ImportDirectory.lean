import MiniGrc.App.ConcurrentImports
import MiniGrc.ForStd.FileTree

/-!
# The watched import directory

`app/import_directory.py`, cut into its system calls, so that the passes of any number of
workers interleave with each other and with the files that are dropped into `inbox/`. A
pass (`run_directory_once`) goes through

    idle → reconciling ⇄ moving → claiming → claimed → importing → archived → written → idle

and imports its file in a session of its own, by the steps of `run_import`. A pass may end
with an exception, a failed commit or the death of its worker at any point.

Files carry what the file system does not record: which drop a file comes from, and who
has claimed it when. No step of the code looks at that.
-/

namespace MiniGrc.ImportDirectory

open JobRuns Imports

variable {ι ρ : Type}

/-- The directories of `ensure_directory_layout`. -/
inductive Dir
  | inbox
  | processing
  /-- `archive/completed` -/
  | completed
  /-- `archive/rejected` -/
  | rejected
  deriving DecidableEq, Repr

/-- A file. -/
structure File (ι : Type) where
  content : List UInt8
  mtime : Time
  /-- the drop that the file comes from; none for a manifest -/
  origin : Option Nat
  /-- the worker that has last moved the file into `processing/`, and when -/
  claim : Option (ι × Time) := none
  deriving DecidableEq, Repr

/-- The files, by directory and name. -/
abbrev Files (ι : Type) := FileTree Dir String (File ι)

/-- `DEFAULT_STALE_SECONDS`, in microseconds. -/
def staleSeconds : Time := 300000000

/-- `now - path.stat().st_mtime > stale_seconds`. -/
def File.stale (file : File ι) (now : Time) : Prop := file.mtime + staleSeconds < now

instance (file : File ι) (now : Time) : Decidable (file.stale now) :=
  inferInstanceAs (Decidable (_ < _))

/-- What `process_claimed_file` writes about an import. -/
structure Manifest where
  importJobId : Id
  status : ImportJobStatus
  recordsCreated : Nat
  recordsSkipped : Nat
  checksumSha256 : String
  originalFilename : String
  deriving DecidableEq, Repr

/-- The importers, the arguments of `run_directory_once`, and `json.dumps` of a manifest. -/
structure Config (ρ : Type) where
  importers : Importers ρ
  importerName : String
  actor : String
  manifestText : Manifest → List UInt8

/-- The arguments of `run_import` for a file. -/
def Config.args (config : Config ρ) (name : String) (rawBytes : List UInt8) : ImportArgs where
  importerName := config.importerName
  rawBytes := rawBytes
  filename := name
  target := []
  actor := config.actor
  source := .watchedDirectory

/-- Where the archive keeps a file. -/
def destination (job : ImportJob) : Dir := if job.status = .completed then .completed else .rejected

/-- The name of a file's manifest. -/
def manifestName (name : String) : String := name ++ ".manifest.json"

/-- The manifest of an import. -/
def manifest (name : String) (id : Id) (job : ImportJob) : Manifest where
  importJobId := id
  status := job.status
  recordsCreated := job.recordsCreated
  recordsSkipped := job.recordsSkipped
  checksumSha256 := job.checksumSha256
  originalFilename := name

/-- Where a worker stands in `run_directory_once`. -/
inductive Pc (ι : Type)
  | idle
  /-- `reconcile_stale_processing` has read the clock; the names are still to be looked at -/
  | reconciling (now : Time) (names : List String)
  /-- it has found a file stale, and renames it next -/
  | moving (now : Time) (found : File ι) (name : String) (names : List String)
  /-- `claim_one_file`; the candidates are still to be tried -/
  | claiming (names : List String)
  /-- the file is claimed -/
  | claimed (name : String)
  /-- `process_claimed_file` has read the file and imports it -/
  | importing (name : String) (rawBytes : List UInt8)
  /-- the file is archived; its manifest is next -/
  | archived (name : String) (rawBytes : List UInt8)
  /-- the manifest is written; the commit is next -/
  | written (name : String) (rawBytes : List UInt8)
  deriving DecidableEq, Repr

/-- What happens to the file of a drop, for the history of the directory. -/
inductive Event (ι : Type)
  /-- worker `i` moves the file into `processing/` -/
  | claimed (origin : Option Nat) (i : ι) (time : Time)
  /-- `reconcile_stale_processing` moves a file back that had been claimed at `since` -/
  | movedBack (origin : Option Nat) (since : Option Time) (time : Time)
  /-- worker `i` reads the file to process it; `claimant` had claimed it -/
  | read (origin : Option Nat) (i : ι) (claimant : Option ι)
  deriving DecidableEq, Repr

/-- The files, the clock and the workers; `dropped` lists what has been dropped. -/
structure State (ι ρ : Type) where
  files : Files ι
  clock : Time
  dropped : List (List UInt8)
  history : List (Event ι)
  db : ConcurrentImports.State ι ρ
  pc : ι → Pc ι

/-- The steps of the system. -/
inductive Label (ι ρ : Type)
  /-- a file is dropped into `inbox/` -/
  | drop (name : String) (content : List UInt8) (mtime : Time)
  /-- time passes -/
  | tick (duration : Time)
  /-- worker `i` starts a pass: it reads the clock and lists `processing/` -/
  | reconcile (i : ι) (names : List String)
  /-- worker `i` looks at the next file of its list -/
  | inspect (i : ι)
  /-- worker `i` renames the file that it has found stale -/
  | moveBack (i : ι)
  /-- worker `i` lists `inbox/` -/
  | list (i : ι)
  /-- worker `i` tries its next candidate, whose size has (not) changed meanwhile -/
  | tryClaim (i : ι) (stable : Bool)
  /-- worker `i` reads its file -/
  | read (i : ι)
  /-- worker `i` calls `run_import` -/
  | call (i : ι) (env : ImportEnv)
  /-- `run_import` of worker `i` looks for a duplicate -/
  | lookUp (i : ι)
  /-- the importer of worker `i` returns its rows or raises -/
  | importer (i : ι) (outcome : Except String (List ρ))
  /-- worker `i` renames its file into the archive -/
  | archive (i : ι)
  /-- worker `i` writes the manifest -/
  | writeManifest (i : ι)
  /-- worker `i` commits, which ends its pass -/
  | commit (i : ι)
  /-- the pass of worker `i` ends with an exception or its death, at any point -/
  | crash (i : ι)

namespace State

/-- Nothing has been dropped yet. -/
def empty : State ι ρ where
  files := .empty
  clock := 0
  dropped := []
  history := []
  db := .quiescent
  pc _ := .idle

variable [DecidableEq ι] (s : State ι ρ) (i : ι)

/-- Drop a file. -/
def drop (name : String) (content : List UInt8) (mtime : Time) : State ι ρ :=
  { s with
    files := s.files.put .inbox name
      { content := content, mtime := mtime, origin := some s.dropped.length }
    dropped := s.dropped ++ [content] }

/-- Move worker `i` on. -/
def setPc (pc : Pc ι) : State ι ρ := { s with pc := Function.update s.pc i pc }

/-- Move a file from `processing/` back to `inbox/`. -/
def moveBack (name : String) (file : File ι) : State ι ρ :=
  { s with
    files := s.files.move .processing .inbox name file
    history := s.history ++ [.movedBack file.origin (file.claim.map Prod.snd) s.clock] }

/-- Move a file from `inbox/` into `processing/`. -/
def claim (name : String) (file : File ι) : State ι ρ :=
  { s with
    files := s.files.move .inbox .processing name { file with claim := some (i, s.clock) }
    history := s.history ++ [.claimed file.origin i s.clock] }

/-- Read a file to process it. -/
def read (file : File ι) : State ι ρ :=
  { s with history := s.history ++ [.read file.origin i (file.claim.map Prod.fst)] }

/-- Move a file into the archive. -/
def archive (name : String) (file : File ι) (job : ImportJob) : State ι ρ :=
  { s with files := s.files.move .processing (destination job) name file }

/-- Write a manifest. -/
def writeManifest (name : String) (job : ImportJob) (text : List UInt8) : State ι ρ :=
  { s with
    files := s.files.put (destination job) (manifestName name)
      { content := text, mtime := s.clock, origin := none } }

/-- The pass of a worker ends; the session without a commit is rolled back. -/
def crash : State ι ρ := { s.setPc i .idle with db := s.db.rollback i }

end State

variable [DecidableEq ι] [Fintype ι]

/-- A step of the session of worker `i`. -/
def dbStep (config : Config ρ) (s : State ι ρ) (l : ConcurrentImports.Label ι ρ) :
    Option (State ι ρ) :=
  (ConcurrentImports.step config.importers s.db l).map fun db => { s with db := db }

/-- One step of the system; `none` when a worker is not at the step, or the step raises. -/
def step (config : Config ρ) (s : State ι ρ) : Label ι ρ → Option (State ι ρ)
  | .drop name content mtime => some (s.drop name content mtime)
  | .tick duration => some { s with clock := s.clock + duration }
  | .reconcile i names =>
    match s.pc i with
    | .idle =>
      if names.Perm (s.files.names .processing) then some (s.setPc i (.reconciling s.clock names))
      else none
    | _ => none
  | .inspect i =>
    match s.pc i with
    | .reconciling now (name :: names) =>
      match s.files.file .processing name with
      | some file =>
        if file.stale now then some (s.setPc i (.moving now file name names))
        else some (s.setPc i (.reconciling now names))
      | none => some (s.setPc i (.reconciling now names))
    | _ => none
  | .moveBack i =>
    match s.pc i with
    | .moving now _ name names =>
      (s.files.file .processing name).map fun file =>
        (s.moveBack name file).setPc i (.reconciling now names)
    | _ => none
  | .list i =>
    match s.pc i with
    | .reconciling _ [] => some (s.setPc i (.claiming (s.files.names .inbox)))
    | _ => none
  | .tryClaim i stable =>
    match s.pc i with
    | .claiming [] => some (s.setPc i .idle)
    | .claiming (name :: names) =>
      match stable, s.files.file .inbox name with
      | true, some file => some ((s.claim i name file).setPc i (.claimed name))
      | _, _ => some (s.setPc i (.claiming names))
    | _ => none
  | .read i =>
    match s.pc i with
    | .claimed name =>
      (s.files.file .processing name).map fun file =>
        (s.read i file).setPc i (.importing name file.content)
    | _ => none
  | .call i env =>
    match s.pc i with
    | .importing name rawBytes => dbStep config s (.call i env (config.args name rawBytes))
    | _ => none
  | .lookUp i =>
    match s.pc i with
    | .importing .. => dbStep config s (.lookUp i)
    | _ => none
  | .importer i outcome =>
    match s.pc i with
    | .importing .. => dbStep config s (.importer i outcome)
    | _ => none
  | .archive i =>
    match s.pc i, s.db.pc i with
    | .importing name rawBytes, .returned _ _ job =>
      (s.files.file .processing name).map fun file =>
        (s.archive name file job).setPc i (.archived name rawBytes)
    | _, _ => none
  | .writeManifest i =>
    match s.pc i, s.db.pc i with
    | .archived name rawBytes, .returned _ id job =>
      some ((s.writeManifest name job (config.manifestText (manifest name id job))).setPc i
        (.written name rawBytes))
    | _, _ => none
  | .commit i =>
    match s.pc i with
    | .written .. => (dbStep config s (.commit i)).map fun s => s.setPc i .idle
    | _ => none
  | .crash i => some (s.crash i)

end MiniGrc.ImportDirectory
