import MiniGrc.App.VersionLifecycle

/-!
# Control-definition versions

`app/control_definition_lifecycle.py` and the `InternalControlVersion` table of
`app/models.py`. A version's row comes from its `Drafted` event, so a rebuild deletes the
rows and replays them. The projectors of the events that create a row, make it effective
or supersede it flush; the others hold their changes back.

The foreign key from `control_occurrences` is left out here: the rows that it concerns
belong to another table.
-/

namespace MiniGrc.ControlDefinitionLifecycle

open Events VersionLifecycle

/-- The columns of an `internal_controls` row that a draft reads, with the ids of the mapped
    requirements. -/
structure InternalControl where
  id : Id
  name : String
  description : String
  status : String
  reviewFrequency : String
  mappedRequirementIds : List Id
  deriving DecidableEq, Repr

/-- The payload of `InternalControlVersionDrafted`. -/
structure Draft where
  controlId : Id
  versionNumber : Nat
  name : String
  description : String
  statusSnapshot : String
  reviewFrequencySnapshot : String
  mappedRequirementIds : List Id
  deriving DecidableEq, Repr

/-- A row of `internal_control_versions`; the key is its `id`. -/
structure InternalControlVersion extends LifecycleColumns, Draft where
  draftedAt : Time
  draftedBy : Option String
  deriving DecidableEq, Repr

instance : VersionRow InternalControlVersion where
  parentId v := v.controlId
  versionNumber v := v.versionNumber
  columns := InternalControlVersion.toLifecycleColumns
  setColumns v c := { v with toLifecycleColumns := c }
  parentId_setColumns _ _ := rfl
  versionNumber_setColumns _ _ := rfl
  columns_setColumns _ _ := rfl
  setColumns_columns _ := rfl
  setColumns_setColumns _ _ _ := rfl

/-- The bodies of the events of the type `internal_control_version`. -/
inductive Body
  | drafted (draft : Draft)
  | lifecycle (event : LifecycleEvent)
  deriving DecidableEq, Repr

/-- A row of `domain_events` of this type. -/
abbrev Event := DomainEvent Id Body String

/-- The row that `_project_drafted` adds. -/
def draftedRow (event : Event) (draft : Draft) : InternalControlVersion where
  toDraft := draft
  draftedAt := event.recordedAt
  draftedBy := event.actorId

/-- The projector of the event flushes. -/
def Body.flushes : Body → Bool
  | .drafted _ => true
  | .lifecycle .madeEffective => true
  | .lifecycle (.superseded _) => true
  | .lifecycle _ => false

/-- `INTERNAL_CONTROL_VERSION_PROJECTORS`. -/
def project (rows : Tracked InternalControlVersion) (event : Event) :
    Except PyError (Tracked InternalControlVersion) :=
  let changed := match event.body with
    | .drafted draft =>
      if event.aggregate ∈ rows.current then .error .integrityError
      else .ok (rows.set event.aggregate (draftedRow event draft))
    | .lifecycle body => VersionLifecycle.project rows event body
  if event.body.flushes then changed.bind flush else changed

/-- `_reset_internal_control_versions`. -/
def resetInternalControlVersions (_ : Tracked InternalControlVersion) :
    Except PyError (Tracked InternalControlVersion) :=
  .ok (Tracked.clean ∅)

/-- The aggregate type `internal_control_version`. -/
def projection : VersionProjection InternalControlVersion Body where
  flush := flush
  project := project
  reset := resetInternalControlVersions
  body := .lifecycle
  lifecycleEvent body := match body with
    | .drafted _ => none
    | .lifecycle event => some event

/-- `rebuild_internal_control_version_projection` and the commit. -/
def rebuildInternalControlVersionProjection (rows : Tracked InternalControlVersion)
    (events : List Event) : Except PyError (Tracked InternalControlVersion) :=
  rebuildAndCommit projection.toProjection rows events

/-! ## The commands -/

/-- A session on the versions. -/
abbrev ControlSession := Session (Tracked InternalControlVersion) Body

/-- The optional arguments of `draft_control_definition_version`. -/
structure Revision where
  name : Option String := none
  description : Option String := none
  statusSnapshot : Option String := none
  reviewFrequencySnapshot : Option String := none
  mappedRequirementIds : Option (List Id) := none

/-- The commands on control-definition versions. -/
inductive Command
  /-- a draft under the fresh `new_id()` -/
  | draft (id : Id) (control : InternalControl) (revision : Revision) (actor : Actor)
  | submitForReview (id : Id) (actor : Actor)
  | reviewVersion (id : Id) (decision comment : String) (actor : Actor)
  | makeVersionEffective (id : Id) (actor : Actor)
  | withdrawVersion (id : Id) (reason : String) (actor : Actor) (occurredAt : Option Time)

/-- `max((v.version_number for v in control.versions), default=0) + 1`. -/
def nextVersionNumber (s : ControlSession) (controlId : Id) : Nat :=
  ((versionsOf s controlId).map fun x => x.2.versionNumber).foldr max 0 + 1

/-- The payload of a new draft: the control's current values unless a revision is given. -/
def draftPayload (s : ControlSession) (control : InternalControl) (revision : Revision) :
    Draft where
  controlId := control.id
  versionNumber := nextVersionNumber s control.id
  name := revision.name.getD control.name
  description := revision.description.getD control.description
  statusSnapshot := revision.statusSnapshot.getD control.status
  reviewFrequencySnapshot := revision.reviewFrequencySnapshot.getD control.reviewFrequency
  mappedRequirementIds := revision.mappedRequirementIds.getD control.mappedRequirementIds

/-- The arguments of the append of a draft. -/
def draftArgs (s : ControlSession) (id : Id) (control : InternalControl) (revision : Revision)
    (actor : Actor) : AppendArgs Id Body String where
  aggregate := id
  body := .drafted (draftPayload s control revision)
  actorType := actor.actorType
  actorId := actor.actorId

/-- `draft_control_definition_version`. -/
def draftControlDefinitionVersion (clock : Clock) (s : ControlSession) (id : Id)
    (control : InternalControl) (revision : Revision) (actor : Actor) : Outcome ControlSession :=
  appendAndProject projection.toProjection clock s (draftArgs s id control revision actor)

def submitForReview (clock : Clock) (s : ControlSession) (id : Id) (actor : Actor) :
    Outcome ControlSession :=
  VersionLifecycle.submitForReview projection clock s id actor

def reviewVersion (clock : Clock) (s : ControlSession) (id : Id) (decision comment : String)
    (actor : Actor) : Outcome ControlSession :=
  VersionLifecycle.reviewVersion projection clock s id actor decision comment

def makeVersionEffective (clock : Clock) (s : ControlSession) (id : Id) (actor : Actor) :
    Outcome ControlSession :=
  VersionLifecycle.makeVersionEffective projection clock s id actor

def withdrawVersion (clock : Clock) (s : ControlSession) (id : Id) (reason : String)
    (actor : Actor) (occurredAt : Option Time) : Outcome ControlSession :=
  VersionLifecycle.withdrawVersion projection clock s id actor reason occurredAt

/-- Run a command. -/
def Command.run (clock : Clock) (s : ControlSession) : Command → Outcome ControlSession
  | .draft id control revision actor =>
    draftControlDefinitionVersion clock s id control revision actor
  | .submitForReview id actor => ControlDefinitionLifecycle.submitForReview clock s id actor
  | .reviewVersion id decision comment actor =>
    ControlDefinitionLifecycle.reviewVersion clock s id decision comment actor
  | .makeVersionEffective id actor =>
    ControlDefinitionLifecycle.makeVersionEffective clock s id actor
  | .withdrawVersion id reason actor occurredAt =>
    ControlDefinitionLifecycle.withdrawVersion clock s id reason actor occurredAt

/-- Run commands one after another. -/
def runAll (clock : Clock) (commands : List Command) (s : ControlSession) :
    Outcome ControlSession :=
  commands.foldl (fun outcome c => outcome.andThen (c.run clock ·)) (.returned s)

/-- `bootstrap_initial_effective_version`. -/
def bootstrapInitialEffectiveVersion (id : Id) (control : InternalControl) (actor : Actor) :
    List Command :=
  [.draft id control {} actor, .submitForReview id actor, .reviewVersion id "approved" "" actor,
    .makeVersionEffective id actor]

/-- A request runs one or more commands and commits. -/
def step (clock : Clock) (s : ControlSession) (commands : List Command) :
    Option ControlSession :=
  some (request projection.toProjection (runAll clock commands) s)

end MiniGrc.ControlDefinitionLifecycle
