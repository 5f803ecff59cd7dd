import MiniGrc.App.ControlDefinitionLifecycle

/-!
# Loaded collections

The commands of `app/control_definition_lifecycle.py` in one session of the application,
which keeps what it has loaded: the collection `control.versions` is read from the database
when it is first used and holds the same rows from then on, until the control is refreshed
or the session is rolled back. A new version is added through its `control_id` and does not
enter a loaded collection. The columns of the rows are those of the session, until a refresh
of the control reads those of the loaded versions again.
-/

namespace MiniGrc.ControlDefinitionLifecycle

open Events VersionLifecycle

/-- A session with the collections that it has loaded, by the id of the control, and with the
    rows and events of the last commit. -/
structure LoadedSession where
  session : ControlSession
  loaded : Table (List Id)
  committed : Table InternalControlVersion × List Event

namespace LoadedSession

/-- `session.refresh(control)`. The relationship `versions` cascades it to its loaded members
    (`all`), so changes of them that have not been flushed are lost; there is no autoflush. -/
def refresh (s : LoadedSession) (controlId : Id) : LoadedSession :=
  { s with
    session := { s.session with
      rows := s.session.rows.expire (s.loaded[controlId]?.getD []) }
    loaded := s.loaded.erase controlId }

/-- The first use of `control.versions` reads the control's rows, the newest first. -/
def load (s : LoadedSession) (controlId : Id) : LoadedSession :=
  if controlId ∈ s.loaded then s
  else
    { s with loaded := s.loaded.insert controlId ((versionsOf s.session controlId).map Prod.fst) }

/-- `control.versions`, once it is loaded. -/
def versions (s : LoadedSession) (controlId : Id) : List (Id × InternalControlVersion) :=
  (s.loaded[controlId]?.getD []).filterMap fun k => s.session.rows.current[k]?.map fun v => (k, v)

/-- `session.rollback()`: what was not committed is gone, and so is what was loaded. -/
def rollback (s : LoadedSession) : LoadedSession where
  session := ⟨Tracked.clean s.committed.1, s.committed.2, s.session.ticks⟩
  loaded := ∅
  committed := s.committed

/-! ## The commands -/

variable (clock : Clock) (s : LoadedSession)

/-- `session.refresh(control)` and the first use of `control.versions` after it. -/
def reload (controlId : Id) : LoadedSession := (s.refresh controlId).load controlId

/-- `draft_control_definition_version`. The control is refreshed first, so the next number is
    that of the table. -/
def draft (id : Id) (control : InternalControl) (revision : Revision) (actor : Actor) :
    Outcome LoadedSession :=
  (draftControlDefinitionVersion clock (s.reload control.id).session id control revision
    actor).map fun session => { s.reload control.id with session }

/-- The first member of `version.control.versions` that is effective and not `id`. -/
def previousEffective (id : Id) (version : InternalControlVersion) :
    Option (Id × InternalControlVersion) :=
  (s.versions version.controlId).find? fun x => status x.2 = .effective ∧ x.1 ≠ id

/-- The two appends of `make_version_effective`. -/
def promote (s : ControlSession) (id : Id) (actor : Actor)
    (previous : Option (Id × InternalControlVersion)) : Outcome ControlSession :=
  (match previous with
    | some previous => append projection clock s previous.1 actor (.superseded id)
    | none => .returned s).andThen
  fun s => append projection clock s id actor .madeEffective

/-- `make_version_effective`. -/
def makeVersionEffective (id : Id) (actor : Actor) : Outcome LoadedSession :=
  match s.session.rows.current[id]? with
  | none => .raised s .attributeError
  | some version =>
    if status version ≠ .approved then
      .raised s (.valueError ("Cannot make effective from lifecycle_status=" ++
        (status version).pyRepr ++ " (must be 'approved')"))
    else
      (promote clock s.session id actor
        ((s.load version.controlId).previousEffective id version)).map
      fun session => { s.load version.controlId with session }

/-- Run a command; the others do not look at the collection. -/
def run : Command → Outcome LoadedSession
  | .draft id control revision actor => s.draft clock id control revision actor
  | .makeVersionEffective id actor => s.makeVersionEffective clock id actor
  | c => (c.run clock s.session).map fun session => { s with session }

/-- What is done with the session: a command, after which it goes on, a commit or a rollback.
    A failed flush leaves nothing but the rollback. -/
inductive Action
  | command (c : Command)
  | commit
  | rollback

/-- A step of the session. -/
def step : Action → Option LoadedSession
  | .command c =>
    match s.run clock c with
    | .returned s' => some s'
    | .raised _ .integrityError => some s.rollback
    | .raised s' _ => some s'
  | .commit =>
    match flush s.session.rows with
    | .error _ => some s.rollback
    | .ok rows =>
      some { s with
        session := { s.session with rows }
        committed := (rows.stored, s.session.events) }
  | .rollback => some s.rollback

/-- A session on an empty database. -/
def initial : LoadedSession where
  session := ⟨Tracked.clean ∅, [], 0⟩
  loaded := ∅
  committed := (∅, [])

end LoadedSession
end MiniGrc.ControlDefinitionLifecycle
