import MiniGrc.App.ControlOccurrences

/-!
# Control tests

`app/control_tests.py` and its tables in `app/models.py`: the populations and samples,
which are plain rows, and the aggregate type `control_test`, whose rows have their
exceptions and their links to evidence-artifact versions.
-/

namespace MiniGrc.ControlTests

open Events ControlOccurrences

/-! ## Populations and samples -/

/-- A row of `control_test_populations`; the key is its `id`. -/
structure ControlTestPopulation where
  controlId : Id
  controlPeriodId : Option Id
  description : String
  criteriaNote : String
  frozenAt : Time
  createdBy : String
  deriving DecidableEq, Repr

/-- A row of `control_test_population_items`; the key is its `id`. -/
structure ControlTestPopulationItem where
  populationId : Id
  controlOccurrenceId : Id
  deriving DecidableEq, Repr

/-- A row of `control_test_samples`; the key is its `id`. -/
structure ControlTestSample where
  populationId : Id
  selectionMethod : String
  selectionRationale : String
  selectedAt : Time
  createdBy : String
  deriving DecidableEq, Repr

/-- A row of `control_test_sample_items`; the key is its `id`. -/
structure ControlTestSampleItem where
  sampleId : Id
  populationItemId : Id
  deriving DecidableEq, Repr

/-- The tables of populations and samples. -/
structure Samples where
  populations : Table ControlTestPopulation
  populationItems : Table ControlTestPopulationItem
  samples : Table ControlTestSample
  sampleItems : Table ControlTestSampleItem

/-- The arguments of `freeze_population`; `newIds i` is the result of the `i`-th `new_id()`. -/
structure Freeze where
  newIds : Nat → Id
  controlId : Id
  controlPeriodId : Option Id := none
  description : String := ""
  criteriaNote : String := ""
  actor : String

/-- The occurrences that `freeze_population` copies. -/
def Freeze.occurrences (args : Freeze) (rows : Table ControlOccurrence) : List Id :=
  (rows.toList.filter fun x => x.2.controlId = args.controlId ∧
    (args.controlPeriodId ≠ none → x.2.controlPeriodId = args.controlPeriodId)).map Prod.fst

/-- Insert rows under new ids. -/
def insertAll {ρ : Type} (t : Table ρ) (rows : List (Id × ρ)) : Except PyError (Table ρ) :=
  rows.foldlM (fun t x =>
    if x.1 ∈ t then .error .integrityError else .ok (t.insert x.1 x.2)) t

/-- `freeze_population`. -/
def freezePopulation (present : TableName → Id → Bool) (occurrences : Table ControlOccurrence)
    (now : Time) (tables : Samples) (args : Freeze) : Except PyError Samples := do
  let populationId := args.newIds 0
  if !present .internalControls args.controlId ∨
      ∃ period ∈ args.controlPeriodId, !present .controlPeriods period then
    throw .integrityError
  let populations ← insertAll tables.populations [(populationId, {
    controlId := args.controlId
    controlPeriodId := args.controlPeriodId
    description := args.description
    criteriaNote := args.criteriaNote
    frozenAt := now
    createdBy := args.actor })]
  let populationItems ← insertAll tables.populationItems
    ((args.occurrences occurrences).zipIdx.map fun x =>
      (args.newIds (x.2 + 1), { populationId, controlOccurrenceId := x.1 }))
  return { tables with populations, populationItems }

/-- The arguments of `draw_sample`; `newIds i` is the result of the `i`-th `new_id()`. -/
structure Draw where
  newIds : Nat → Id
  populationId : Id
  populationItemIds : List Id
  selectionMethod : String
  selectionRationale : String
  actor : String

/-- `draw_sample`. A population item can be in a sample only once
    (`uq_sample_item_population_item`). -/
def drawSample (now : Time) (tables : Samples) (args : Draw) : Except PyError Samples := do
  if args.populationItemIds = [] then
    throw (.valueError "A sample must select at least one population item.")
  let validIds := (tables.populationItems.toList.filter fun x =>
    x.2.populationId = args.populationId).map Prod.fst
  let unknown := args.populationItemIds.dedup.filter (· ∉ validIds)
  if unknown ≠ [] then
    throw (.valueError ("Item id(s) [" ++
      ", ".intercalate ((unknown.mergeSort (· ≤ ·)).map reprId) ++
      "] do not belong to population " ++ reprId args.populationId ++ "."))
  let sampleId := args.newIds 0
  let samples ← insertAll tables.samples [(sampleId, {
    populationId := args.populationId
    selectionMethod := args.selectionMethod
    selectionRationale := args.selectionRationale
    selectedAt := now
    createdBy := args.actor })]
  if ¬ args.populationItemIds.Nodup then
    throw .integrityError
  let sampleItems ← insertAll tables.sampleItems (args.populationItemIds.zipIdx.map fun x =>
    (args.newIds (x.2 + 1), { sampleId, populationItemId := x.1 }))
  return { tables with samples, sampleItems }

/-! ## Tests -/

/-- `TEST_RESULTS`. -/
inductive TestResult
  | noExceptions
  | exceptionsNoted
  deriving DecidableEq, Repr

/-- The result that a caller's string names. -/
def TestResult.parse (result : String) : Option TestResult :=
  if result = "no_exceptions" then some .noExceptions
  else if result = "exceptions_noted" then some .exceptionsNoted
  else none

/-- A row of `control_test_exceptions`. -/
structure ControlTestException where
  sampleItemId : Option Id := none
  description : String := ""
  deriving DecidableEq, Repr

/-- The payload of `ControlTestRecorded`. -/
structure Recorded where
  controlId : Id
  controlPeriodId : Option Id
  sampleId : Option Id
  procedureDescription : String
  testerPersonId : Id
  performedAt : Time
  result : TestResult
  notes : String
  exceptions : List ControlTestException
  retestOfTestId : Option Id
  deriving DecidableEq, Repr

/-- A row of `control_tests`, with its exceptions and its links; the key is its `id`. -/
structure ControlTest extends Recorded where
  createdAt : Time
  updatedAt : Time
  /-- `control_test_evidence_artifacts` -/
  evidenceArtifacts : List Link := []
  deriving DecidableEq, Repr

/-- The evidence-artifact versions that a test is linked to. -/
def ControlTest.evidenceArtifactVersionIds (test : ControlTest) : List Id :=
  test.evidenceArtifacts.map Link.target

/-- The bodies of the events of the type `control_test`. -/
inductive Body
  | recorded (payload : Recorded)
  | evidenceLinked (evidenceArtifactVersionId : Id)
  deriving DecidableEq, Repr

/-- A row of `domain_events` of this type. -/
abbrev Event := DomainEvent Id Body String

/-- The rows that `_project_recorded` adds. -/
def projectRecorded (event : Event) (payload : Recorded) : ControlTest where
  toRecorded := payload
  createdAt := event.recordedAt
  updatedAt := event.recordedAt

/-- `CONTROL_TEST_PROJECTORS`. A link of a test that does not exist violates a foreign key,
    and a link that exists already `uq_test_evidence_artifact`. -/
def row (flushed : FlushTimes) (test : Option ControlTest) (event : Event) :
    Except PyError ControlTest :=
  match event.body, test with
  | .recorded payload, none => .ok (projectRecorded event payload)
  | .evidenceLinked id, some test =>
    if id ∈ test.evidenceArtifactVersionIds then .error .integrityError
    else .ok { test with
      evidenceArtifacts := test.evidenceArtifacts ++ [.addedBy flushed event id] }
  | _, _ => .error .integrityError

/-- The foreign keys of a test, its exceptions and its links into other tables. -/
def foreignKeys (test : ControlTest) : List (TableName × Id) :=
  (.internalControls, test.controlId) :: (.people, test.testerPersonId) ::
    test.controlPeriodId.toList.map (.controlPeriods, ·) ++
    test.sampleId.toList.map (.controlTestSamples, ·) ++
    (test.exceptions.filterMap fun x => x.sampleItemId).map (.controlTestSampleItems, ·) ++
    test.evidenceArtifactVersionIds.map (.evidenceArtifactVersions, ·)

/-- No unique index, but the foreign key `retest_of_test_id`. -/
def constraints : Constraints ControlTest where
  conflict _ _ := false
  refs test := test.retestOfTestId.toList

/-- The aggregate type `control_test`. -/
def aggregateType (flushed : FlushTimes) : AggregateType ControlTest Body :=
  ⟨row flushed, foreignKeys, constraints⟩

/-! ## The commands on tests -/

/-- A session on the tests. -/
abbrev TestSession := Session (Table ControlTest) Body

/-- The arguments of `record_test`, with the fresh `new_id()`. -/
structure Record where
  newId : Id
  controlId : Id
  sampleId : Option Id := none
  controlPeriodId : Option Id := none
  procedureDescription : String
  testerPersonId : Id
  performedAt : Time
  result : String
  notes : String := ""
  exceptions : List ControlTestException := []
  retestOfTestId : Option Id := none

/-- What `record_test` checks of a sample, which the callers have loaded. -/
def checkSample (tables : Samples) (args : Record) (sampleId : Id) : Except PyError Unit :=
  match tables.samples[sampleId]? with
  | none => .error .attributeError
  | some sample =>
    match tables.populations[sample.populationId]? with
    | none => .error .attributeError
    | some population =>
      if population.controlId ≠ args.controlId then
        .error (.valueError ("sample " ++ reprId sampleId ++
          " was drawn from a population of control " ++ reprId population.controlId ++ ", not " ++
          reprId args.controlId ++ "."))
      else
        let validSampleItemIds := (tables.sampleItems.toList.filter fun x =>
          x.2.sampleId = sampleId).map Prod.fst
        match (args.exceptions.filterMap fun x => x.sampleItemId).find?
            (· ∉ validSampleItemIds) with
        | some sampleItemId =>
          .error (.valueError ("sample_item_id " ++ reprId sampleItemId ++
            " does not belong to sample " ++ reprId sampleId ++ "."))
        | none => .ok ()

variable (P : Projection (Table ControlTest) Body) (clock : Clock) (tables : Samples)
  (s : TestSession)

/-- What `record_test` checks of the test that is repeated, which the callers have loaded. -/
def checkRetestOf (args : Record) (retestOf : Id) : Except PyError Unit :=
  match s.rows[retestOf]? with
  | none => .error .attributeError
  | some test =>
    if test.controlId ≠ args.controlId then
      .error (.valueError "retest_of must be a prior test of the same control.")
    else .ok ()

/-- The checks of `record_test`, in their order. -/
def checkRecord (args : Record) : Except PyError TestResult := do
  match TestResult.parse args.result with
  | none =>
    throw (.valueError ("result must be one of ('no_exceptions', 'exceptions_noted'), got " ++
      pyRepr args.result))
  | some result =>
    if args.exceptions ≠ [] ∧ result ≠ .exceptionsNoted then
      throw (.valueError "exceptions were given but result is not 'exceptions_noted'.")
    args.sampleId.forM (checkSample tables args)
    args.retestOfTestId.forM (checkRetestOf s args)
    return result

/-- `record_test`. -/
def recordTest (args : Record) (actor : Actor) : Outcome TestSession :=
  match checkRecord tables s args with
  | .error e => .raised s e
  | .ok result =>
    appendAndProject P clock s
      { aggregate := args.newId
        body := .recorded { args with result := result }
        actorType := actor.actorType
        actorId := actor.actorId }

/-- `link_test_evidence`. -/
def linkTestEvidence (id evidenceArtifactVersionId : Id) (actor : Actor) : Outcome TestSession :=
  appendAndProject P clock s
    { aggregate := id
      body := .evidenceLinked evidenceArtifactVersionId
      actorType := actor.actorType
      actorId := actor.actorId }

/-- The commands on tests. -/
inductive Command
  | record (args : Record) (actor : Actor)
  | linkEvidence (id evidenceArtifactVersionId : Id) (actor : Actor)

/-- Run a command. -/
def Command.run : Command → Outcome TestSession
  | .record args actor => recordTest P clock tables s args actor
  | .linkEvidence id evidenceArtifactVersionId actor =>
    linkTestEvidence P clock s id evidenceArtifactVersionId actor

end MiniGrc.ControlTests
