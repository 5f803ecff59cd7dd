import MiniGrc.App.ControlOccurrences
import MiniGrc.App.LoadedVersions

/-!
# Occurrences and definition versions in one session

The commands of `app/control_occurrences.py` beside those of
`app/control_definition_lifecycle.py` in one session of the application, which keeps what it
has loaded. `generate_occurrences` and `record_occurrence_manually` refresh the control
before they read `control.effective_version`. The insert of an event writes what the session
holds back of the versions.
-/

namespace MiniGrc.PinnedVersions

open Events VersionLifecycle
open ControlDefinitionLifecycle (InternalControlVersion LoadedSession)
open ControlOccurrences (ControlOccurrence OccurrenceSession computeDueDates)

/-- A session with the versions, the occurrences and their events, and with the occurrences
    and their events of the last commit. -/
structure PinnedSession where
  versions : LoadedSession
  occurrences : Table ControlOccurrence
  events : List ControlOccurrences.Event
  committed : Table ControlOccurrence × List ControlOccurrences.Event

namespace PinnedSession

variable (clock : Clock) (others : TableName → Id → Bool) (s : PinnedSession)

/-- `control.effective_version`, once the collection is loaded. -/
def effectiveVersion (versions : LoadedSession) (controlId : Id) : Option Id :=
  ((versions.versions controlId).find? fun x => status x.2 = .effective).map Prod.fst

/-- The rows that the foreign keys of an occurrence may lead to; `others` are those of other
    tables. -/
def present : TableName → Id → Bool
  | .internalControlVersions, id => id ∈ s.versions.session.rows.current
  | name, id => others name id

/-- The aggregate type `control_occurrence`: the flush before an insert writes the versions
    too. -/
def occurrenceProjection : Projection (Table ControlOccurrence) ControlOccurrences.Body :=
  { (ControlOccurrences.aggregateType clock.flushed).projection (present others s) false with
    flush := fun occurrences => (flush s.versions.session.rows).map fun _ => occurrences }

/-- The session on the occurrences. -/
def occurrenceSession : OccurrenceSession :=
  ⟨s.occurrences, s.events, s.versions.session.ticks⟩

/-- The control that a command refreshes. A generation that is refused, or has nothing to do,
    ends before. -/
def refreshed (t : OccurrenceSession) : ControlOccurrences.Command → Option Id
  | .generate control period horizonMonths today _ _ =>
    match control.cadenceType, control.cadenceIntervalMonths with
    | some .calendar, some interval =>
      if hinterval : 0 < interval.toNat then
        if ∃ p ∈ period, p.status ≠ .active then none
        else
          match computeDueDates t control.id interval.toNat hinterval period today
            horizonMonths with
          | .error _ => none
          | .ok _ => some control.id
      else none
    | _, _ => none
  | .recordManually _ controlId .. => some controlId
  | _ => none

/-- `session.refresh(control)` and the first use of `control.versions` after it. -/
def reload (c : ControlOccurrences.Command) : PinnedSession :=
  match refreshed s.occurrenceSession c with
  | none => s
  | some controlId => { s with versions := s.versions.reload controlId }

/-- What a flush leaves of the rows. -/
def written (rows : Tracked InternalControlVersion) : Tracked InternalControlVersion :=
  match flush rows with
  | .ok rows => rows
  | .error _ => rows

/-- What a command on occurrences leaves, with the versions written if it has inserted an
    event. -/
def absorb (t : OccurrenceSession) : PinnedSession :=
  { s with
    versions := { s.versions with session := { s.versions.session with
      rows := if t.events.length = s.events.length then s.versions.session.rows
        else written s.versions.session.rows
      ticks := t.ticks } }
    occurrences := t.rows
    events := t.events }

/-- Run a command on occurrences. -/
def runOccurrence (c : ControlOccurrences.Command) : Outcome PinnedSession :=
  let s := s.reload c
  (c.run (occurrenceProjection clock others s) clock s.occurrenceSession
    (effectiveVersion s.versions)).map s.absorb

/-- `session.rollback()`. -/
def rollback : PinnedSession where
  versions := s.versions.rollback
  occurrences := s.committed.1
  events := s.committed.2
  committed := s.committed

/-- What is done with the session. The rows of other tables may change between commands. A
    failed flush leaves nothing but the rollback. -/
inductive Action
  | version (c : ControlDefinitionLifecycle.Command)
  | occurrence (others : TableName → Id → Bool) (c : ControlOccurrences.Command)
  | commit
  | rollback

/-- How the session goes on after a command. -/
def conclude : Outcome PinnedSession → PinnedSession
  | .returned s' => s'
  | .raised _ .integrityError => s.rollback
  | .raised s' _ => s'

/-- A step of the session. -/
def step : Action → Option PinnedSession
  | .version c =>
    some (s.conclude ((s.versions.run clock c).map fun versions => { s with versions }))
  | .occurrence others c => some (s.conclude (s.runOccurrence clock others c))
  | .commit =>
    match flush s.versions.session.rows with
    | .error _ => some s.rollback
    | .ok rows =>
      some { s with
        versions := { s.versions with
          session := { s.versions.session with rows }
          committed := (rows.stored, s.versions.session.events) }
        committed := (s.occurrences, s.events) }
  | .rollback => some s.rollback

/-- A session on an empty database. -/
def initial : PinnedSession where
  versions := LoadedSession.initial
  occurrences := ∅
  events := []
  committed := (∅, [])

end PinnedSession
end MiniGrc.PinnedVersions
