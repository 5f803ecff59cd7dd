import MiniGrc.App.ComplianceScope
import MiniGrc.App.ControlDefinitionLifecycle
import MiniGrc.App.EvidenceRepository
import MiniGrc.App.FindingLifecycle
import MiniGrc.App.FrameworkAdoption
import MiniGrc.App.PolicyLifecycle

/-!
# The whole database, and its full rebuild

The aggregate types with the populations and samples in one database, the commands on it,
and `_rebuild_all_projections` of `app/backup.py`. Each aggregate type has its own part of
the log: a rebuild reads the events of one type, and no two types share a key.

Of the other tables only the ids are kept; their rows are inserted at any time and never
deleted.
-/

namespace MiniGrc

open Events
open PolicyLifecycle (PolicyVersion)
open ControlDefinitionLifecycle (InternalControlVersion)
open ControlOccurrences (ControlOccurrence)
open EvidenceRepository (EvidenceArtifactVersion)
open ControlTests (ControlTest)
open FindingLifecycle (Finding)
open ComplianceScopes (ComplianceScope)
open FrameworkAdoptions (FrameworkAdoption)

/-- The tables and the events of an aggregate type. -/
structure Stream (τ β : Type) where
  rows : τ
  events : List (DomainEvent Id β String)

/-- A session on an aggregate type. -/
def Stream.session {τ β : Type} (st : Stream τ β) (ticks : Nat) : Session τ β :=
  ⟨st.rows, st.events, ticks⟩

/-- What a session leaves. -/
def Session.stream {τ β : Type} (s : Session τ β) : Stream τ β := ⟨s.rows, s.events⟩

/-- The database. -/
structure Database where
  policyVersions : Stream (Tracked PolicyVersion) LifecycleEvent
  controlVersions : Stream (Tracked InternalControlVersion) ControlDefinitionLifecycle.Body
  occurrences : Stream (Table ControlOccurrence) ControlOccurrences.Body
  artifactVersions : Stream (Table EvidenceArtifactVersion) EvidenceRepository.Body
  tests : Stream (Table ControlTest) ControlTests.Body
  scopes : Stream (Table ComplianceScope) ComplianceScopes.Body
  findings : Stream (Table Finding) FindingLifecycle.Body
  adoptions : Stream (Table FrameworkAdoption) FrameworkAdoptions.Body
  samples : ControlTests.Samples
  /-- the ids of the other tables -/
  others : TableName → List Id
  /-- how often the clock has been read -/
  ticks : Nat

namespace Database

/-- An empty database. -/
def empty : Database where
  policyVersions := ⟨Tracked.clean ∅, []⟩
  controlVersions := ⟨Tracked.clean ∅, []⟩
  occurrences := ⟨∅, []⟩
  artifactVersions := ⟨∅, []⟩
  tests := ⟨∅, []⟩
  scopes := ⟨∅, []⟩
  findings := ⟨∅, []⟩
  adoptions := ⟨∅, []⟩
  samples := ⟨∅, ∅, ∅, ∅⟩
  others _ := []
  ticks := 0

/-- A table has a row with the id. -/
def present (db : Database) (name : TableName) (id : Id) : Bool :=
  match name with
  | .internalControlVersions => id ∈ db.controlVersions.rows.current
  | .evidenceArtifactVersions => id ∈ db.artifactVersions.rows
  | .controlTests => id ∈ db.tests.rows
  | .controlTestSamples => id ∈ db.samples.samples
  | .controlTestSampleItems => id ∈ db.samples.sampleItems
  | name => id ∈ db.others name

/-! ## What foreign keys refer to -/

/-- A population item refers to an occurrence. -/
def occurrencesReferenced (db : Database) : Bool :=
  db.samples.populationItems.toList.any fun x => x.2.controlOccurrenceId ∈ db.occurrences.rows

/-- A link of a test or a remediation update refers to an evidence-artifact version. -/
def artifactVersionsReferenced (db : Database) : Bool :=
  (db.tests.rows.toList.any fun x =>
    x.2.evidenceArtifactVersionIds.any (· ∈ db.artifactVersions.rows)) ||
  db.findings.rows.toList.any fun x =>
    x.2.remediationUpdates.any fun u =>
      ∃ id ∈ u.linkedEvidenceArtifactVersionId, id ∈ db.artifactVersions.rows

/-- A finding or a retest of a finding refers to a test. -/
def testsReferenced (db : Database) : Bool :=
  db.findings.rows.toList.any fun x =>
    (∃ id ∈ x.2.sourceTestId, id ∈ db.tests.rows) || x.2.retestTestIds.any (· ∈ db.tests.rows)

/-! ## The aggregate types on the database -/

/-- The aggregate type `control_occurrence`. -/
def occurrenceProjection (db : Database) (flushed : FlushTimes) :
    Projection (Table ControlOccurrence) ControlOccurrences.Body :=
  (ControlOccurrences.aggregateType flushed).projection db.present db.occurrencesReferenced

/-- The aggregate type `evidence_artifact_version`. -/
def artifactVersionProjection (db : Database) :
    Projection (Table EvidenceArtifactVersion) EvidenceRepository.Body :=
  EvidenceRepository.aggregateType.projection db.present db.artifactVersionsReferenced

/-- The aggregate type `control_test`. -/
def testProjection (db : Database) (flushed : FlushTimes) :
    Projection (Table ControlTest) ControlTests.Body :=
  (ControlTests.aggregateType flushed).projection db.present db.testsReferenced

/-- The aggregate type `compliance_scope`: no table refers to it. -/
def scopeProjection (db : Database) : Projection (Table ComplianceScope) ComplianceScopes.Body :=
  ComplianceScopes.aggregateType.projection db.present false

/-- The aggregate type `finding`: only its own tables refer to it. -/
def findingProjection (db : Database) (flushed : FlushTimes) :
    Projection (Table Finding) FindingLifecycle.Body :=
  (FindingLifecycle.aggregateType flushed).projection db.present false

/-- The aggregate type `framework_adoption`: no table refers to it. -/
def adoptionProjection (db : Database) :
    Projection (Table FrameworkAdoption) FrameworkAdoptions.Body :=
  FrameworkAdoptions.aggregateType.projection db.present false

/-- `control.effective_version`, its id. -/
def effectiveVersion (db : Database) (controlId : Id) : Option Id :=
  ((VersionLifecycle.versionsOf (db.controlVersions.session db.ticks) controlId).find? fun x =>
    VersionLifecycle.status x.2 = .effective).map Prod.fst

/-! ## The commands -/

/-- The requests: a command each, or several on control-definition versions. -/
inductive Command
  | policy (c : PolicyLifecycle.Command)
  | controlDefinition (cs : List ControlDefinitionLifecycle.Command)
  | occurrence (c : ControlOccurrences.Command)
  | evidence (c : EvidenceRepository.Command)
  | freezePopulation (args : ControlTests.Freeze)
  | drawSample (args : ControlTests.Draw)
  | test (c : ControlTests.Command)
  | scope (c : ComplianceScopes.Command)
  | finding (c : FindingLifecycle.Command)
  | adoption (c : FrameworkAdoptions.Command)
  /-- a new row of another table -/
  | insert (name : TableName) (id : Id)

/-- The tables of populations and samples after a command, unless it raises. -/
def withSamples (db : Database) (samples : Except PyError ControlTests.Samples) : Database :=
  match samples with
  | .ok samples => { db with samples := samples, ticks := db.ticks + 1 }
  | .error _ => db

/-- A request. -/
def step (clock : Clock) (db : Database) : Command → Option Database
  | .policy c =>
    let s := request PolicyLifecycle.projection.toProjection (c.run clock)
      (db.policyVersions.session db.ticks)
    some { db with policyVersions := s.stream, ticks := s.ticks }
  | .controlDefinition cs =>
    let s := request ControlDefinitionLifecycle.projection.toProjection
      (ControlDefinitionLifecycle.runAll clock cs) (db.controlVersions.session db.ticks)
    some { db with controlVersions := s.stream, ticks := s.ticks }
  | .occurrence c =>
    let P := db.occurrenceProjection clock.flushed
    let s := request P (c.run P clock · db.effectiveVersion) (db.occurrences.session db.ticks)
    some { db with occurrences := s.stream, ticks := s.ticks }
  | .evidence c =>
    let s := request db.artifactVersionProjection (c.run db.artifactVersionProjection clock)
      (db.artifactVersions.session db.ticks)
    some { db with artifactVersions := s.stream, ticks := s.ticks }
  | .freezePopulation args =>
    some (db.withSamples (ControlTests.freezePopulation db.present db.occurrences.rows
      (clock.reading db.ticks) db.samples args))
  | .drawSample args =>
    some (db.withSamples (ControlTests.drawSample (clock.reading db.ticks) db.samples args))
  | .test c =>
    let P := db.testProjection clock.flushed
    let s := request P (c.run P clock db.samples) (db.tests.session db.ticks)
    some { db with tests := s.stream, ticks := s.ticks }
  | .scope c =>
    let s := request db.scopeProjection (c.run db.scopeProjection clock)
      (db.scopes.session db.ticks)
    some { db with scopes := s.stream, ticks := s.ticks }
  | .finding c =>
    let P := db.findingProjection clock.flushed
    let s := request P (c.run P clock · db.tests.rows) (db.findings.session db.ticks)
    some { db with findings := s.stream, ticks := s.ticks }
  | .adoption c =>
    let s := request db.adoptionProjection (c.run db.adoptionProjection clock)
      (db.adoptions.session db.ticks)
    some { db with adoptions := s.stream, ticks := s.ticks }
  | .insert name id =>
    some { db with others := fun n => if n = name then id :: db.others n else db.others n }

/-! ## The rebuilds

A rebuild inserts its link rows anew: `later` are the times of the flushes that do. -/

/-- The `UPDATE` of `_reset_internal_control_versions`. -/
def clearDefinitionVersions (db : Database) : Database :=
  { db with occurrences := { db.occurrences with
      rows := db.occurrences.rows.map fun _ o => { o with controlDefinitionVersionId := none } } }

/-- The first `DELETE` of `_reset_evidence_artifact_versions`. -/
def deleteArtifactLinks (db : Database) : Database :=
  { db with occurrences := { db.occurrences with
      rows := db.occurrences.rows.map fun _ o => { o with evidenceArtifacts := [] } } }

/-- `rebuild_finding_projection`. -/
def rebuildFinding (later : FlushTimes) (db : Database) : Except PyError Database :=
  (rebuildAndCommit (db.findingProjection later) db.findings.rows db.findings.events).map
    fun rows => { db with findings := { db.findings with rows := rows } }

/-- What `_rebuild_all_projections` reports, and the database that it leaves. -/
structure Report where
  rebuilt : List String
  errors : List (String × PyError)
  database : Database

/-- A rebuild that raises is rolled back, and the next one runs. -/
def Report.rebuild (report : Report)
    (rebuilder : String × (Database → Except PyError Database)) : Report :=
  match rebuilder.2 report.database with
  | .ok db => { report with rebuilt := report.rebuilt ++ [rebuilder.1], database := db }
  | .error e => { report with errors := report.errors ++ [(rebuilder.1, e)] }

end Database
end MiniGrc
