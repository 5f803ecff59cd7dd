import MiniGrc.App.Aggregates
import MiniGrc.App.Dates

/-!
# Control occurrences

`app/control_occurrences.py` and the `ControlOccurrence` table of `app/models.py`, with its
links to evidence snapshots and evidence-artifact versions.
-/

namespace MiniGrc.ControlOccurrences

open Events

/-- `CADENCE_TYPES`. -/
inductive CadenceType
  | calendar
  | eventDriven
  deriving DecidableEq, Repr

/-- The columns of an `internal_controls` row that the commands read. -/
structure InternalControl where
  id : Id
  cadenceType : Option CadenceType := none
  cadenceIntervalMonths : Option Int := none
  ownerPersonId : Option Id := none

/-- `CONTROL_PERIOD_STATUSES`. -/
inductive ControlPeriodStatus
  | planned
  | active
  | closed
  deriving DecidableEq, Repr

/-- The columns of a `control_periods` row that the commands read. -/
structure ControlPeriod where
  id : Id
  startsOn : Date
  endsOn : Date
  status : ControlPeriodStatus

/-- `CONTROL_OCCURRENCE_ORIGINS`. -/
inductive Origin
  | generated
  | manual
  deriving DecidableEq, Repr

/-- A row of `control_occurrences`, with its links. -/
structure ControlOccurrence where
  controlId : Id
  controlPeriodId : Option Id
  origin : Origin
  dueAt : Option DateTime
  performedAt : Option Time := none
  responsiblePersonId : Option Id := none
  performedByPersonId : Option Id := none
  scopeNote : String
  evidenceNote : String
  controlDefinitionVersionId : Option Id
  createdAt : Time
  updatedAt : Time
  /-- `control_occurrence_evidence` -/
  evidence : List Link := []
  /-- `control_occurrence_evidence_artifacts` -/
  evidenceArtifacts : List Link := []
  deriving DecidableEq, Repr

/-- The evidence snapshots that an occurrence is linked to. -/
def ControlOccurrence.evidenceSnapshotIds (occurrence : ControlOccurrence) : List Id :=
  occurrence.evidence.map Link.target

/-- The evidence-artifact versions that an occurrence is linked to. -/
def ControlOccurrence.evidenceArtifactVersionIds (occurrence : ControlOccurrence) : List Id :=
  occurrence.evidenceArtifacts.map Link.target

/-- The payload of `ControlOccurrenceMaterialized`. -/
structure Materialized where
  controlId : Id
  controlPeriodId : Option Id
  dueAt : DateTime
  responsiblePersonId : Option Id
  cadenceIntervalMonths : Int
  controlDefinitionVersionId : Option Id
  deriving DecidableEq, Repr

/-- The payload of `ControlOccurrenceRecordedManually`. -/
structure RecordedManually where
  controlId : Id
  controlPeriodId : Option Id
  dueAt : Option DateTime
  scopeNote : String
  controlDefinitionVersionId : Option Id
  deriving DecidableEq, Repr

/-- The payload of `ControlOccurrencePerformed`. -/
structure Performed where
  performedByPersonId : Option Id
  scopeNote : String
  evidenceNote : String
  deriving DecidableEq, Repr

/-- The bodies of the events of the type `control_occurrence`. -/
inductive Body
  | materialized (payload : Materialized)
  | recordedManually (payload : RecordedManually)
  | performed (payload : Performed)
  | evidenceLinked (evidenceSnapshotId : Id)
  | evidenceArtifactLinked (evidenceArtifactVersionId : Id)
  deriving DecidableEq, Repr

/-- A row of `domain_events` of this type. -/
abbrev Event := DomainEvent Id Body String

/-! ## The projectors -/

/-- The row that `_project_materialized` adds. -/
def projectMaterialized (event : Event) (payload : Materialized) : ControlOccurrence where
  controlId := payload.controlId
  controlPeriodId := payload.controlPeriodId
  origin := .generated
  dueAt := some payload.dueAt
  responsiblePersonId := payload.responsiblePersonId
  scopeNote := ""
  evidenceNote := ""
  controlDefinitionVersionId := payload.controlDefinitionVersionId
  createdAt := event.recordedAt
  updatedAt := event.recordedAt

/-- The row that `_project_recorded_manually` adds. -/
def projectRecordedManually (event : Event) (payload : RecordedManually) : ControlOccurrence where
  controlId := payload.controlId
  controlPeriodId := payload.controlPeriodId
  origin := .manual
  dueAt := payload.dueAt
  scopeNote := payload.scopeNote
  evidenceNote := ""
  controlDefinitionVersionId := payload.controlDefinitionVersionId
  createdAt := event.recordedAt
  updatedAt := event.recordedAt

/-- `_project_performed`. -/
def projectPerformed (event : Event) (payload : Performed) (occurrence : ControlOccurrence) :
    ControlOccurrence :=
  { occurrence with
    performedAt := some event.occurredAt
    performedByPersonId := payload.performedByPersonId
    scopeNote := payload.scopeNote
    evidenceNote := payload.evidenceNote
    updatedAt := event.recordedAt }

/-- `CONTROL_OCCURRENCE_PROJECTORS`. A link of an occurrence that does not exist violates a
    foreign key, and a link that exists already `uq_occurrence_evidence` or
    `uq_occurrence_evidence_artifact`. -/
def row (flushed : FlushTimes) (occurrence : Option ControlOccurrence) (event : Event) :
    Except PyError ControlOccurrence :=
  match event.body, occurrence with
  | .materialized payload, none => .ok (projectMaterialized event payload)
  | .recordedManually payload, none => .ok (projectRecordedManually event payload)
  | .performed payload, some occurrence => .ok (projectPerformed event payload occurrence)
  | .performed _, none => .error .attributeError
  | .evidenceLinked id, some occurrence =>
    if id ∈ occurrence.evidenceSnapshotIds then .error .integrityError
    else .ok { occurrence with
      evidence := occurrence.evidence ++ [.addedBy flushed event id] }
  | .evidenceArtifactLinked id, some occurrence =>
    if id ∈ occurrence.evidenceArtifactVersionIds then .error .integrityError
    else .ok { occurrence with
      evidenceArtifacts := occurrence.evidenceArtifacts ++ [.addedBy flushed event id] }
  | _, _ => .error .integrityError

/-- The foreign keys of an occurrence and its links. -/
def foreignKeys (occurrence : ControlOccurrence) : List (TableName × Id) :=
  (.internalControls, occurrence.controlId) ::
    occurrence.controlPeriodId.toList.map (.controlPeriods, ·) ++
    occurrence.responsiblePersonId.toList.map (.people, ·) ++
    occurrence.performedByPersonId.toList.map (.people, ·) ++
    occurrence.controlDefinitionVersionId.toList.map (.internalControlVersions, ·) ++
    occurrence.evidenceSnapshotIds.map (.evidenceSnapshots, ·) ++
    occurrence.evidenceArtifactVersionIds.map (.evidenceArtifactVersions, ·)

/-- `uq_occurrence_control_period_due`, and `uq_occurrence_control_due_no_period` for
    occurrences without a period. NULLs differ. -/
def constraints : Constraints ControlOccurrence where
  conflict o o' := o.controlId = o'.controlId ∧ o.controlPeriodId = o'.controlPeriodId ∧
    o.dueAt ≠ none ∧ o.dueAt = o'.dueAt
  refs _ := []

/-- The aggregate type `control_occurrence`. -/
def aggregateType (flushed : FlushTimes) : AggregateType ControlOccurrence Body :=
  ⟨row flushed, foreignKeys, constraints⟩

/-! ## The commands -/

/-- A session on the occurrences. -/
abbrev OccurrenceSession := Session (Table ControlOccurrence) Body

variable (P : Projection (Table ControlOccurrence) Body) (clock : Clock) (s : OccurrenceSession)

/-- `_compute_due_dates`, for a positive interval. -/
def computeDueDates (controlId : Id) (interval : Nat) (hinterval : 0 < interval)
    (period : Option ControlPeriod) (today : Date) (horizonMonths : Int) :
    Except PyError (List Date) :=
  match period with
  | some period => Date.every interval hinterval period.startsOn period.endsOn
  | none => do
    let lastDue := ((s.rows.toList.filter fun x =>
      x.2.controlId = controlId ∧ x.2.controlPeriodId = none).filterMap (·.2.dueAt)).max?
    let horizonEnd ← today.addMonths horizonMonths
    let current ← match lastDue with
      | some lastDue => lastDue.date.addMonths interval
      | none => pure today
    Date.every interval hinterval current horizonEnd

/-- The idempotency key of a generated occurrence. -/
def materializeKey (controlId : Id) (periodId : Option Id) (dueDate : Date) : String :=
  let period := match periodId with
    | some periodId => toString periodId
    | none => "none"
  s!"control_occurrence:materialize:{controlId}:{period}:" ++ dueDate.isoformat

/-- The append that materializes the occurrence of one due date. -/
def materializeArgs (control : InternalControl) (interval : Nat) (periodId : Option Id)
    (controlDefinitionVersionId : Option Id) (actor : Actor) (dueDate : Date) (newId : Id) :
    AppendArgs Id Body String where
  aggregate := newId
  body := .materialized {
    controlId := control.id
    controlPeriodId := periodId
    dueAt := .dueAtForDate dueDate
    responsiblePersonId := control.ownerPersonId
    cadenceIntervalMonths := interval
    controlDefinitionVersionId := controlDefinitionVersionId }
  idempotencyKey := some (materializeKey control.id periodId dueDate)
  actorType := actor.actorType
  actorId := actor.actorId

/-- Materialize the occurrence of one due date. -/
def materialize (control : InternalControl) (interval : Nat) (periodId : Option Id)
    (controlDefinitionVersionId : Option Id) (actor : Actor) (dueDate : Date) (newId : Id) :
    Outcome OccurrenceSession :=
  appendAndProject P clock s
    (materializeArgs control interval periodId controlDefinitionVersionId actor dueDate newId)

/-- One round of the loop of `generate_occurrences`: the returned list gains the row of the
    returned event, given by its id. -/
def materializeInto (control : InternalControl) (interval : Nat) (periodId : Option Id)
    (controlDefinitionVersionId : Option Id) (actor : Actor) (dueDate : Date) (newId : Id)
    (r : OccurrenceSession × List Id) : Outcome (OccurrenceSession × List Id) :=
  match materialize P clock r.1 control interval periodId controlDefinitionVersionId actor dueDate
    newId with
  | .returned s =>
    let event := returnedEvent clock r.1
      (materializeArgs control interval periodId controlDefinitionVersionId actor dueDate newId)
    .returned (s, r.2 ++ [event.aggregate])
  | .raised s e => .raised (s, r.2) e

/-- The body of `generate_occurrences`, over what its loop carries along: a round is for an
    interval, a due date and the result of the `new_id()` that is drawn for it. -/
def generateRounds {σ : Type} (start : σ) (round : Nat → Date → Id → σ → Outcome σ)
    (control : InternalControl) (period : Option ControlPeriod) (horizonMonths : Int) (today : Date)
    (newIds : Nat → Id) : Outcome σ :=
  match control.cadenceType, control.cadenceIntervalMonths with
  | some .calendar, some interval =>
    if hinterval : 0 < interval.toNat then
      if ∃ p ∈ period, p.status ≠ .active then
        .raised start
          (.valueError "Cannot generate occurrences for a control period that is not active")
      else
        match computeDueDates s control.id interval.toNat hinterval period today horizonMonths with
        | .error e => .raised start e
        | .ok dueDates =>
          dueDates.zipIdx.foldl (fun outcome x => outcome.andThen
            (round interval.toNat x.1 (newIds x.2))) (.returned start)
    else .returned start
  | _, _ => .returned start

/-- `generate_occurrences`, with the list that it returns: `newIds i` is the result of the `i`-th
    `new_id()`, and `controlDefinitionVersionId` the id of the control's effective version. -/
def generateOccurrences (control : InternalControl) (period : Option ControlPeriod)
    (horizonMonths : Int) (today : Date) (controlDefinitionVersionId : Option Id)
    (newIds : Nat → Id) (actor : Actor) : Outcome (OccurrenceSession × List Id) :=
  generateRounds s (s, [])
    (fun interval => materializeInto P clock control interval (period.map ControlPeriod.id)
      controlDefinitionVersionId actor)
    control period horizonMonths today newIds

/-- `record_occurrence_manually`, under the fresh `new_id()`. -/
def recordOccurrenceManually (id controlId : Id) (controlPeriodId : Option Id)
    (dueAt : Option DateTime) (scopeNote : String) (controlDefinitionVersionId : Option Id)
    (actor : Actor) : Outcome OccurrenceSession :=
  appendAndProject P clock s
    { aggregate := id
      body := .recordedManually
        { controlId, controlPeriodId, dueAt, scopeNote, controlDefinitionVersionId }
      actorType := actor.actorType
      actorId := actor.actorId }

/-- `perform_occurrence`. -/
def performOccurrence (id : Id) (occurredAt : Time) (performedByPersonId : Option Id)
    (scopeNote evidenceNote : String) (actor : Actor) : Outcome OccurrenceSession :=
  appendAndProject P clock s
    { aggregate := id
      body := .performed { performedByPersonId, scopeNote, evidenceNote }
      occurredAt := some occurredAt
      actorType := actor.actorType
      actorId := actor.actorId }

/-- `link_evidence`. -/
def linkEvidence (id evidenceSnapshotId : Id) (actor : Actor) : Outcome OccurrenceSession :=
  appendAndProject P clock s
    { aggregate := id
      body := .evidenceLinked evidenceSnapshotId
      actorType := actor.actorType
      actorId := actor.actorId }

/-- `link_evidence_artifact_version`. -/
def linkEvidenceArtifactVersion (id evidenceArtifactVersionId : Id) (actor : Actor) :
    Outcome OccurrenceSession :=
  appendAndProject P clock s
    { aggregate := id
      body := .evidenceArtifactLinked evidenceArtifactVersionId
      actorType := actor.actorType
      actorId := actor.actorId }

/-- The commands on occurrences. -/
inductive Command
  | generate (control : InternalControl) (period : Option ControlPeriod) (horizonMonths : Int)
      (today : Date) (newIds : Nat → Id) (actor : Actor)
  | recordManually (id controlId : Id) (controlPeriodId : Option Id) (dueAt : Option DateTime)
      (scopeNote : String) (actor : Actor)
  | perform (id : Id) (occurredAt : Time) (performedByPersonId : Option Id)
      (scopeNote evidenceNote : String) (actor : Actor)
  | linkEvidence (id evidenceSnapshotId : Id) (actor : Actor)
  | linkEvidenceArtifactVersion (id evidenceArtifactVersionId : Id) (actor : Actor)

/-- Run a command; `effectiveVersion` gives the id of a control's effective version. -/
def Command.run (effectiveVersion : Id → Option Id) : Command → Outcome OccurrenceSession
  | .generate control period horizonMonths today newIds actor =>
    (generateOccurrences P clock s control period horizonMonths today (effectiveVersion control.id)
      newIds actor).map Prod.fst
  | .recordManually id controlId controlPeriodId dueAt scopeNote actor =>
    recordOccurrenceManually P clock s id controlId controlPeriodId dueAt scopeNote
      (effectiveVersion controlId) actor
  | .perform id occurredAt performedByPersonId scopeNote evidenceNote actor =>
    performOccurrence P clock s id occurredAt performedByPersonId scopeNote evidenceNote actor
  | .linkEvidence id evidenceSnapshotId actor =>
    ControlOccurrences.linkEvidence P clock s id evidenceSnapshotId actor
  | .linkEvidenceArtifactVersion id evidenceArtifactVersionId actor =>
    ControlOccurrences.linkEvidenceArtifactVersion P clock s id evidenceArtifactVersionId actor

end MiniGrc.ControlOccurrences
