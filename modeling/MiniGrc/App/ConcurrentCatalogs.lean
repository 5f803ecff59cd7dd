import MiniGrc.ForStd.OpenRows
import MiniGrc.App.SystemCatalogs

/-!
# The reconciliation of the catalogs from several sessions

`reconcile_system_catalogs` of `app/framework_catalog.py`, with `add_requirement` and
`adopt_framework`, cut into its statements, so that the calls of any number of sessions
interleave, each call in a transaction of its own that sees what is committed and its own rows.

An insert that meets a committed row of its unique index raises an `IntegrityError`; one that
meets a row of another open transaction waits for that session's end, which is a step that
cannot be taken yet. The inserts of frameworks and requirements stand in savepoints, so that an
`IntegrityError` undoes nothing else. The insert of an adoption does not: the exception ends
the call, and `session_scope` rolls back.

Rows are only inserted, under the ids of `new_id()`, so that the foreign keys hold. An adoption
and its event are inserted in one step: a new aggregate has no event that the insert could meet.
The columns that default to the clock are left out.
-/

namespace MiniGrc.ConcurrentCatalogs

open FrameworkAdoptions (FrameworkAdoption)
open FrameworkRequirements (Failure)

variable {ι : Type}

/-! ## Rows -/

/-- A row of `frameworks`; the key is its `id`. -/
structure Framework where
  catalogKey : Option String
  catalogFamily : Option String
  name : String
  version : String
  description : String := ""
  isPlaceholderContent : Bool := true
  isActive : Bool := true
  isPrimary : Bool := false
  deriving DecidableEq, Repr

/-- A row of `framework_requirements`. -/
structure Requirement where
  frameworkId : Id
  referenceCode : String
  title : String
  summary : String := ""
  displayOrder : Int := 0
  deriving DecidableEq, Repr

/-- A row of `requirement_assessments`. -/
structure Assessment where
  requirementId : Id
  applicable : String := "yes"
  implementationState : String := "not_started"
  owner : String := ""
  lastReviewedAt : Option Time := none
  lastReviewedBy : String := ""
  deriving DecidableEq, Repr

/-- A row of `audit_events`. -/
structure AuditEvent where
  entityType : String
  entityId : Id
  action : String
  detail : String
  actor : String := "system"
  deriving DecidableEq, Repr

/-- `uq_framework_catalog_key`. NULLs differ. -/
def frameworkConflict (f g : Framework) : Bool :=
  f.catalogKey.isSome && f.catalogKey == g.catalogKey

/-- `uq_requirement_framework_code`. -/
def requirementConflict (r q : Requirement) : Bool :=
  r.frameworkId == q.frameworkId && r.referenceCode == q.referenceCode

/-- The unique `requirement_id`. -/
def assessmentConflict (a b : Assessment) : Bool := a.requirementId == b.requirementId

/-- `uq_framework_adoption_catalog_family`. -/
def adoptionConflict (a b : FrameworkAdoption) : Bool := a.catalogFamily == b.catalogFamily

/-- The tables, without open transactions. -/
structure Tables where
  frameworks : Table Framework
  requirements : Table Requirement
  assessments : Table Assessment
  adoptions : Table FrameworkAdoption
  events : Table FrameworkAdoptions.Event
  auditEvents : Table AuditEvent

/-- The first row of a query. -/
def scalar {ρ : Type} (t : Table ρ) (p : ρ → Bool) : Option (Id × ρ) :=
  t.toList.find? fun x => p x.2

/-! ## Sessions -/

/-- Where a session stands in `reconcile_system_catalogs`: `rest` are the catalogs after the
    current one, `framework` is the row that `_find_or_create_catalog_framework` has returned,
    and `todo` are the requirements after the current one. -/
inductive Pc
  | idle
  /-- the look-up of the framework -/
  | findFramework (catalog : SystemCatalog) (rest : List SystemCatalog)
  /-- its insert, in a savepoint -/
  | insertFramework (catalog : SystemCatalog) (rest : List SystemCatalog)
  /-- the look-up of the winner after an `IntegrityError` -/
  | rereadFramework (catalog : SystemCatalog) (rest : List SystemCatalog)
  /-- the look-up of a requirement -/
  | findRequirement (catalog : SystemCatalog) (framework : Id × Framework)
      (requirement : CatalogRequirement) (todo : List CatalogRequirement)
      (rest : List SystemCatalog)
  /-- `add_requirement`, in a savepoint -/
  | insertRequirement (catalog : SystemCatalog) (framework : Id × Framework)
      (requirement : CatalogRequirement) (todo : List CatalogRequirement)
      (rest : List SystemCatalog)
  /-- the look-up of the winner after an `IntegrityError` -/
  | rereadRequirement (catalog : SystemCatalog) (framework : Id × Framework)
      (requirement : CatalogRequirement) (todo : List CatalogRequirement)
      (rest : List SystemCatalog)
  /-- `get_adoption` of the catalog's family -/
  | findAdoption (catalog : SystemCatalog) (framework : Id × Framework)
      (rest : List SystemCatalog)
  /-- the checks of `adopt_framework` -/
  | checkAdoption (catalog : SystemCatalog) (framework : Id × Framework)
      (rest : List SystemCatalog)
  /-- its `append_and_project` -/
  | insertAdoption (catalog : SystemCatalog) (framework : Id × Framework) (family : String)
      (rest : List SystemCatalog)
  /-- the call has returned; the commit is next -/
  | returned
  /-- the call has returned and is committed -/
  | done
  | raised (error : Failure)

/-- The tables and the sessions. -/
structure State (ι : Type) where
  frameworks : OpenRows ι Framework
  requirements : OpenRows ι Requirement
  assessments : OpenRows ι Assessment
  adoptions : OpenRows ι FrameworkAdoption
  events : OpenRows ι FrameworkAdoptions.Event
  auditEvents : OpenRows ι AuditEvent
  pc : ι → Pc

/-- What the `new_id()`s of a statement give, and the clock. -/
structure NewRows where
  frameworkId : Id
  requirementId : Id
  assessmentId : Id
  adoptionId : Id
  eventId : Id
  auditEventId : Id
  now : Time

/-- The steps of the system. -/
inductive Label (ι : Type)
  /-- session `i` calls `reconcile_system_catalogs` -/
  | call (i : ι)
  /-- session `i`'s call executes its next statement -/
  | statement (i : ι) (new : NewRows)
  /-- session `i` commits after a call that has returned -/
  | commit (i : ι)
  /-- session `i` rolls back, or dies, at any point -/
  | rollback (i : ι)

namespace State

/-- No call has been made. -/
def initial (t : Tables) : State ι where
  frameworks := .closed t.frameworks
  requirements := .closed t.requirements
  assessments := .closed t.assessments
  adoptions := .closed t.adoptions
  events := .closed t.events
  auditEvents := .closed t.auditEvents
  pc _ := .idle

/-- What is committed. -/
def committed (s : State ι) : Tables where
  frameworks := s.frameworks.committed
  requirements := s.requirements.committed
  assessments := s.assessments.committed
  adoptions := s.adoptions.committed
  events := s.events.committed
  auditEvents := s.auditEvents.committed

/-- What session `i` has written in its open transaction. -/
def own (s : State ι) (i : ι) : Tables where
  frameworks := s.frameworks.own i
  requirements := s.requirements.own i
  assessments := s.assessments.own i
  adoptions := s.adoptions.own i
  events := s.events.own i
  auditEvents := s.auditEvents.own i

/-- The ids are new. -/
def Unused (s : State ι) (new : NewRows) : Prop :=
  s.frameworks.Unused new.frameworkId ∧ s.requirements.Unused new.requirementId ∧
    s.assessments.Unused new.assessmentId ∧ s.adoptions.Unused new.adoptionId ∧
    s.events.Unused new.eventId ∧ s.auditEvents.Unused new.auditEventId

instance [Fintype ι] (s : State ι) (new : NewRows) : Decidable (s.Unused new) :=
  inferInstanceAs (Decidable (_ ∧ _))

variable [DecidableEq ι] (s : State ι) (i : ι)

/-- Session `i` goes on. -/
def goto (pc : Pc) : State ι := { s with pc := Function.update s.pc i pc }

/-- `record_audit_event` of `reconcile_system_catalogs`. -/
def audit (auditEventId frameworkId : Id) (detail : String) : State ι :=
  let row : AuditEvent :=
    { entityType := "framework", entityId := frameworkId, action := "reconcile_create", detail }
  { s with auditEvents := s.auditEvents.write i auditEventId row }

/-- Commit session `i`'s transaction. -/
def commit : State ι where
  frameworks := s.frameworks.commit i
  requirements := s.requirements.commit i
  assessments := s.assessments.commit i
  adoptions := s.adoptions.commit i
  events := s.events.commit i
  auditEvents := s.auditEvents.commit i
  pc := Function.update s.pc i .done

/-- Roll session `i`'s transaction back. -/
def rollback (pc : Pc) : State ι where
  frameworks := s.frameworks.rollback i
  requirements := s.requirements.rollback i
  assessments := s.assessments.rollback i
  adoptions := s.adoptions.rollback i
  events := s.events.rollback i
  auditEvents := s.auditEvents.rollback i
  pc := Function.update s.pc i pc

end State

/-! ## The statements -/

/-- The head of the loop over the catalogs. -/
def nextCatalog : List SystemCatalog → Pc
  | [] => .returned
  | catalog :: rest => .findFramework catalog rest

/-- The head of the loop over the requirements of a catalog. -/
def nextRequirement (catalog : SystemCatalog) (framework : Id × Framework)
    (rest : List SystemCatalog) : List CatalogRequirement → Pc
  | [] => .findAdoption catalog framework rest
  | requirement :: todo => .findRequirement catalog framework requirement todo rest

/-- The row of `_find_or_create_catalog_framework`. -/
def SystemCatalog.framework (catalog : SystemCatalog) : Framework where
  catalogKey := some catalog.catalogKey
  catalogFamily := some catalog.catalogFamily
  name := catalog.name
  version := catalog.version
  description := catalog.description
  isPlaceholderContent := true
  isPrimary := catalog.isPrimary

/-- The row of `add_requirement`. -/
def newRequirement (frameworkId : Id) (requirement : CatalogRequirement) : Requirement where
  frameworkId := frameworkId
  referenceCode := requirement.referenceCode
  title := requirement.title
  summary := requirement.summary
  displayOrder := requirement.displayOrder

/-- The event of `adopt_framework` by the system. -/
def adoptedEvent (new : NewRows) (family : String) (frameworkId : Id) :
    FrameworkAdoptions.Event where
  aggregate := new.adoptionId
  aggregateSequence := 1
  body := .adopted family frameworkId
  occurredAt := new.now
  recordedAt := new.now
  actorType := "system"
  actorId := none
  idempotencyKey := none

/-- The `RuntimeError` after an `IntegrityError` that nobody's row explains. -/
def noWinner (what : String) : Failure :=
  .runtimeError ("IntegrityError creating " ++ what ++
    " exists — not a concurrent-creation race, re-raising")

variable [DecidableEq ι] [Fintype ι]

/-- Execute the statement `pc` of session `i`'s call. -/
def exec (s : State ι) (i : ι) (new : NewRows) : Pc → Option (State ι)
  | .findFramework catalog rest =>
    match scalar (s.frameworks.visible i) fun f => f.catalogKey = some catalog.catalogKey with
    | some framework =>
      some (s.goto i (nextRequirement catalog framework rest catalog.requirements))
    | none => some (s.goto i (.insertFramework catalog rest))
  | .insertFramework catalog rest =>
    match s.frameworks.insert frameworkConflict i new.frameworkId catalog.framework with
    | .waits => none
    | .refused => some (s.goto i (.rereadFramework catalog rest))
    | .done frameworks =>
      let detail := "Reconciled system catalog framework '" ++ catalog.name ++ "' (" ++
        catalog.catalogKey ++ ")"
      some (({ s with frameworks }.audit i new.auditEventId new.frameworkId detail).goto i
        (nextRequirement catalog (new.frameworkId, catalog.framework) rest catalog.requirements))
  | .rereadFramework catalog rest =>
    match scalar (s.frameworks.visible i) fun f => f.catalogKey = some catalog.catalogKey with
    | some winner => some (s.goto i (nextRequirement catalog winner rest catalog.requirements))
    | none => some (s.rollback i (.raised (noWinner ("catalog framework '" ++
        catalog.catalogKey ++ "' but no row with that catalog_key"))))
  | .findRequirement catalog framework requirement todo rest =>
    match scalar (s.requirements.visible i) fun r => r.frameworkId = framework.1 ∧
        r.referenceCode = requirement.referenceCode with
    | some _ => some (s.goto i (nextRequirement catalog framework rest todo))
    | none => some (s.goto i (.insertRequirement catalog framework requirement todo rest))
  | .insertRequirement catalog framework requirement todo rest =>
    let lost := some (s.goto i (.rereadRequirement catalog framework requirement todo rest))
    match s.requirements.insert requirementConflict i new.requirementId
        (newRequirement framework.1 requirement) with
    | .waits => none
    | .refused => lost
    | .done requirements =>
      match s.assessments.insert assessmentConflict i new.assessmentId
          { requirementId := new.requirementId } with
      | .waits => none
      | .refused => lost
      | .done assessments =>
        let detail := "Reconciled requirement '" ++ requirement.referenceCode ++ "' for " ++
          catalog.catalogKey
        some (({ s with requirements, assessments }.audit i new.auditEventId framework.1
          detail).goto i (nextRequirement catalog framework rest todo))
  | .rereadRequirement catalog framework requirement todo rest =>
    match scalar (s.requirements.visible i) fun r => r.frameworkId = framework.1 ∧
        r.referenceCode = requirement.referenceCode with
    | some _ => some (s.goto i (nextRequirement catalog framework rest todo))
    | none => some (s.rollback i (.raised (noWinner ("requirement '" ++
        requirement.referenceCode ++ "' for framework '" ++ (framework.2.catalogKey).getD "None" ++
        "' but no matching row"))))
  | .findAdoption catalog framework rest =>
    match scalar (s.adoptions.visible i) fun a => a.catalogFamily = catalog.catalogFamily with
    | some _ => some (s.goto i (nextCatalog rest))
    | none => some (s.goto i (.checkAdoption catalog framework rest))
  | .checkAdoption catalog framework rest =>
    match framework.2.catalogFamily with
    | none => some (s.rollback i (.raised (.adoption (.valueError ("Cannot adopt framework " ++
        reprId framework.1 ++
        ": it has no catalog_family (not part of a versioned system catalog).")))))
    | some family =>
      match scalar (s.adoptions.visible i) fun a => a.catalogFamily = family with
      | none => some (s.goto i (.insertAdoption catalog framework family rest))
      | some (_, existing) =>
        if existing.frameworkId = framework.1 then some (s.goto i (nextCatalog rest))
        else some (s.rollback i (.raised (.adoption (.valueError ("catalog_family " ++
          pyRepr family ++ " is already adopted (framework_id=" ++ reprId existing.frameworkId ++
          ") — use upgrade_framework_adoption to move to a different version.")))))
  | .insertAdoption _ framework family rest =>
    let event := adoptedEvent new family framework.1
    match s.adoptions.insert adoptionConflict i new.adoptionId
        (FrameworkAdoptions.projectAdopted event family framework.1) with
    | .waits => none
    | .refused => some (s.rollback i (.raised (.adoption .integrityError)))
    | .done adoptions =>
      some ({ s with adoptions, events := s.events.write i new.eventId event }.goto i
        (nextCatalog rest))
  | .idle | .returned | .done | .raised _ => none

/-- One step of the system. -/
def step (catalogs : Catalogs) (s : State ι) : Label ι → Option (State ι)
  | .call i =>
    match s.pc i with
    | .idle | .done | .raised _ => some (s.goto i (nextCatalog catalogs.list))
    | _ => none
  | .statement i new => if s.Unused new then exec s i new (s.pc i) else none
  | .commit i =>
    match s.pc i with
    | .returned => some (s.commit i)
    | _ => none
  | .rollback i => some (s.rollback i .idle)

end MiniGrc.ConcurrentCatalogs
