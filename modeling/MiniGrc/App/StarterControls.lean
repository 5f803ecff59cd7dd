import MiniGrc.App.LoadedVersions

/-!
# Starter controls

`generate_starter_controls_for_framework` of `app/starter_controls.py` in one session of the
application. A new row is written by the next flush (the session does not flush before a
query), and the collections `framework.requirements` and `control.mappings` hold what the
database held when they were first used. The lifecycle of the definition versions is that of
`LoadedSession`.
-/

namespace MiniGrc.StarterControls

open ControlDefinitionLifecycle (ControlSession LoadedSession Command)

/-- The columns of `frameworks` that are read here. -/
structure Framework where
  id : Id
  name : String
  deriving DecidableEq, Repr

/-- The columns of `framework_requirements` that are read here. -/
structure FrameworkRequirement where
  frameworkId : Id
  referenceCode : String
  title : String
  displayOrder : Int := 0
  deriving DecidableEq, Repr

/-- A row of `internal_controls`. -/
structure InternalControl where
  name : String
  description : String := ""
  owner : String := ""
  status : String := "not_started"
  reviewFrequency : String := "annual"
  deriving DecidableEq, Repr

/-- A row of `control_requirement_mappings`. -/
structure ControlRequirementMapping where
  controlId : Id
  requirementId : Id
  deriving DecidableEq, Repr

/-- A row of `audit_events`. -/
structure AuditEvent where
  entityType : String
  entityId : Id
  action : String
  detail : String
  actor : String
  deriving DecidableEq, Repr

/-- The tables, but for those of the versions and their events. -/
structure Tables where
  requirements : Table FrameworkRequirement
  controls : Table InternalControl
  mappings : Table ControlRequirementMapping
  auditEvents : List AuditEvent := []

/-- What is committed. -/
structure Database where
  tables : Tables
  versions : ControlSession

/-- A session: what its transaction sees, the rows that wait for a flush, the collections
    that are loaded, and how many ids of `new_id()` are used up. -/
structure StarterSession where
  tables : Tables
  versions : LoadedSession
  newControls : List (Id × InternalControl) := []
  newMappings : List (Id × ControlRequirementMapping) := []
  newAuditEvents : List AuditEvent := []
  /-- `framework.requirements` by the framework -/
  requirements : Table (List (Id × FrameworkRequirement)) := ∅
  /-- the requirements of `control.mappings` by the control -/
  mappings : Table (List Id) := ∅
  drawn : Nat := 0

/-- Why the function raises. -/
inductive Failure
  | integrityError
  /-- a text that the column does not hold -/
  | dataError
  /-- a refresh of a row that does not exist -/
  | invalidRequest
  | command (error : PyError)
  deriving DecidableEq, Repr

/-- The clock, the results of `new_id()`, and the database: the texts that a column of the type
    `String(255)` holds (SQLite: all) and the order of texts. -/
structure Environment where
  clock : Clock
  newId : Nat → Id
  holds : String → Bool
  textLe : String → String → Bool

variable (env : Environment)

/-! ## The session -/

/-- The session of a request. -/
def StarterSession.start (db : Database) : StarterSession where
  tables := db.tables
  versions := ⟨db.versions, ∅, (db.versions.rows.current, db.versions.events)⟩

/-- `INSERT INTO internal_controls`. -/
def Environment.insertControl (tables : Tables) (new : Id × InternalControl) :
    Except Failure Tables :=
  if new.1 ∈ tables.controls then .error .integrityError
  else if env.holds new.2.name then
    .ok { tables with controls := tables.controls.insert new.1 new.2 }
  else .error .dataError

/-- `INSERT INTO control_requirement_mappings`. -/
def insertMapping (tables : Tables) (new : Id × ControlRequirementMapping) :
    Except Failure Tables :=
  if new.1 ∈ tables.mappings ∨ (tables.mappings.toList.any fun x => x.2 = new.2) ∨
      new.2.controlId ∉ tables.controls ∨ new.2.requirementId ∉ tables.requirements then
    .error .integrityError
  else .ok { tables with mappings := tables.mappings.insert new.1 new.2 }

/-- `session.flush()`. -/
def Environment.flush (s : StarterSession) : Except Failure StarterSession := do
  let tables ← s.newControls.foldlM env.insertControl s.tables
  let tables ← s.newMappings.foldlM insertMapping tables
  let rows ← (VersionLifecycle.flush s.versions.session.rows).mapError .command
  return { s with
    tables := { tables with auditEvents := tables.auditEvents ++ s.newAuditEvents }
    versions := { s.versions with session := { s.versions.session with rows := rows } }
    newControls := []
    newMappings := []
    newAuditEvents := [] }

/-- `session.commit()`. -/
def Environment.commit (s : StarterSession) : Except Failure Database :=
  (env.flush s).map fun s => ⟨s.tables, s.versions.session⟩

/-- The order of `framework.requirements`. -/
def Environment.before (r r' : FrameworkRequirement) : Prop :=
  r.displayOrder < r'.displayOrder ∨
    r.displayOrder = r'.displayOrder ∧ env.textLe r.referenceCode r'.referenceCode

instance (r r' : FrameworkRequirement) : Decidable (env.before r r') :=
  inferInstanceAs (Decidable (_ ∨ _))

/-- The requirements of a framework. -/
def Environment.requirementsOf (tables : Tables) (frameworkId : Id) :
    List (Id × FrameworkRequirement) :=
  (tables.requirements.toList.filter fun x => x.2.frameworkId = frameworkId).insertionSort
    fun x y => env.before x.2 y.2

/-- The first use of `framework.requirements`. -/
def Environment.loadRequirements (s : StarterSession) (frameworkId : Id) : StarterSession :=
  if frameworkId ∈ s.requirements then s
  else
    { s with
      requirements := s.requirements.insert frameworkId (env.requirementsOf s.tables frameworkId) }

/-- The requirements to which a control is mapped. -/
def Tables.requirementIdsOf (tables : Tables) (controlId : Id) : List Id :=
  (tables.mappings.toList.filter fun x => x.2.controlId = controlId).map
    fun x => x.2.requirementId

/-- The first use of `control.mappings`. -/
def StarterSession.loadMappings (s : StarterSession) (controlId : Id) : StarterSession :=
  if controlId ∈ s.mappings then s
  else
    { s with mappings := s.mappings.insert controlId (s.tables.requirementIdsOf controlId) }

/-- `session.refresh(control)`, as far as it is not part of the draft of a version: that draft
    refreshes the control again, and with it the loaded versions, whose pending changes are lost
    (`LoadedSession.refresh`). A new control has none. -/
def StarterSession.refresh (s : StarterSession) (controlId : Id) : StarterSession :=
  { s with mappings := s.mappings.erase controlId }

/-! ## The definition version -/

/-- Run commands on versions until one raises. -/
def runCommands (clock : Clock) (commands : List Command) (s : LoadedSession) :
    Except Failure LoadedSession :=
  commands.foldlM (fun s c => match s.run clock c with
    | .returned s => .ok s
    | .raised _ e => .error (.command e)) s

/-- What a draft reads of the control. -/
def StarterSession.definition (s : StarterSession) (controlId : Id) (control : InternalControl) :
    ControlDefinitionLifecycle.InternalControl where
  id := controlId
  name := control.name
  description := control.description
  status := control.status
  reviewFrequency := control.reviewFrequency
  mappedRequirementIds := s.mappings[controlId]?.getD []

/-- `bootstrap_initial_effective_version(session, control, actor_type="system")`. The name goes
    from one column of the type `String(255)` to another. -/
def Environment.bootstrapInitialEffectiveVersion (s : StarterSession) (controlId : Id) :
    Except Failure StarterSession := do
  let s := s.refresh controlId
  match s.tables.controls[controlId]? with
  | none => .error .invalidRequest
  | some control =>
    let s := s.loadMappings controlId
    let definition := s.definition controlId control
    -- the first append flushes what waits, and the others find nothing
    let s ← env.flush s
    let versions ← runCommands env.clock
      (ControlDefinitionLifecycle.bootstrapInitialEffectiveVersion (env.newId s.drawn) definition
        { actorType := "system" }) s.versions
    return { s with versions := versions, drawn := s.drawn + 1 }

/-! ## The generation -/

/-- The name of a starter control. -/
def starterName (requirement : FrameworkRequirement) : String :=
  "Starter control for " ++ requirement.referenceCode ++ ": " ++ requirement.title

/-- The new control for a requirement. -/
def starterControl (requirement : FrameworkRequirement) : InternalControl where
  name := starterName requirement
  description := "Placeholder starter control generated during onboarding. Review, rename, " ++
    "assign an owner, and replace this description with what your organization " ++
    "actually does to satisfy this requirement."
  status := "not_started"

/-- The audit event for a new control. -/
def generatedEvent (framework : Framework) (actor : String) (controlId : Id)
    (requirement : FrameworkRequirement) : AuditEvent where
  entityType := "control"
  entityId := controlId
  action := "onboarding_generate_starter_control"
  detail := "Generated starter control for requirement '" ++ requirement.referenceCode ++ "' (" ++
    framework.name ++ ")"
  actor := actor

/-- One turn of the loop, for a requirement without a mapping. -/
def Environment.generateStarterControl (framework : Framework) (actor : String)
    (s : StarterSession) (requirement : Id × FrameworkRequirement) :
    Except Failure (Id × StarterSession) := do
  let controlId := env.newId s.drawn
  let s ← env.flush { s with
    newControls := s.newControls ++ [(controlId, starterControl requirement.2)]
    drawn := s.drawn + 1 }
  let s ← env.flush { s with
    newMappings := s.newMappings ++ [(env.newId s.drawn, ⟨controlId, requirement.1⟩)]
    drawn := s.drawn + 1 }
  let s ← env.bootstrapInitialEffectiveVersion s controlId
  let event := generatedEvent framework actor controlId requirement.2
  return (controlId, { s with newAuditEvents := s.newAuditEvents ++ [event] })

/-- The requirements of the framework that some control is mapped to. -/
def Tables.mappedRequirementIds (tables : Tables) (frameworkId : Id) : List Id :=
  tables.mappings.toList.filterMap fun x =>
    match tables.requirements[x.2.requirementId]? with
    | some requirement =>
      if requirement.frameworkId = frameworkId then some x.2.requirementId else none
    | none => none

/-- One turn of the loop. -/
def Environment.generateUnlessMapped (framework : Framework) (actor : String) (mapped : List Id)
    (state : List Id × StarterSession) (requirement : Id × FrameworkRequirement) :
    Except Failure (List Id × StarterSession) :=
  if requirement.1 ∈ mapped then .ok state
  else do
    let (controlId, s) ← env.generateStarterControl framework actor state.2 requirement
    return (state.1 ++ [controlId], s)

/-- `generate_starter_controls_for_framework`: the ids of the new controls. -/
def Environment.generateStarterControlsForFramework (framework : Framework) (actor : String)
    (s : StarterSession) : Except Failure (List Id × StarterSession) :=
  let mapped := s.tables.mappedRequirementIds framework.id
  let s := env.loadRequirements s framework.id
  (s.requirements[framework.id]?.getD []).foldlM
    (env.generateUnlessMapped framework actor mapped) ([], s)

end MiniGrc.StarterControls
