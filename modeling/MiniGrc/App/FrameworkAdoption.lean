import MiniGrc.App.Aggregates

/-!
# Framework adoptions

`app/framework_adoption.py` and the `FrameworkAdoption` table of `app/models.py`.
-/

namespace MiniGrc.FrameworkAdoptions

open Events

/-- A row of `framework_adoptions`; the key is its `id`. -/
structure FrameworkAdoption where
  catalogFamily : String
  frameworkId : Id
  previousFrameworkId : Option Id
  adoptedAt : Time
  upgradedAt : Option Time
  deriving DecidableEq, Repr

/-- The bodies of the events of the type `framework_adoption`, with their payloads. -/
inductive Body
  | adopted (catalogFamily : String) (frameworkId : Id)
  | upgraded (catalogFamily : String) (fromFrameworkId toFrameworkId : Id)
  deriving DecidableEq, Repr

/-- A row of `domain_events` of this type. -/
abbrev Event := DomainEvent Id Body String

/-- The row that `_project_adopted` adds. -/
def projectAdopted (event : Event) (catalogFamily : String) (frameworkId : Id) :
    FrameworkAdoption where
  catalogFamily := catalogFamily
  frameworkId := frameworkId
  previousFrameworkId := none
  adoptedAt := event.recordedAt
  upgradedAt := none

/-- `_project_upgraded`. -/
def projectUpgraded (event : Event) (fromFrameworkId toFrameworkId : Id)
    (adoption : FrameworkAdoption) : FrameworkAdoption :=
  { adoption with
    previousFrameworkId := some fromFrameworkId
    frameworkId := toFrameworkId
    upgradedAt := some event.recordedAt }

/-- `FRAMEWORK_ADOPTION_PROJECTORS`. -/
def row (adoption : Option FrameworkAdoption) (event : Event) :
    Except PyError FrameworkAdoption :=
  match event.body, adoption with
  | .adopted catalogFamily frameworkId, none => .ok (projectAdopted event catalogFamily frameworkId)
  | .adopted _ _, some _ => .error .integrityError
  | .upgraded _ fromFrameworkId toFrameworkId, some adoption =>
    .ok (projectUpgraded event fromFrameworkId toFrameworkId adoption)
  | .upgraded _ _ _, none => .error .attributeError

/-- The foreign keys of an adoption. -/
def foreignKeys (adoption : FrameworkAdoption) : List (TableName × Id) :=
  (.frameworks, adoption.frameworkId) ::
    adoption.previousFrameworkId.toList.map (.frameworks, ·)

/-- `uq_framework_adoption_catalog_family`. -/
def constraints : Constraints FrameworkAdoption where
  conflict a a' := a.catalogFamily = a'.catalogFamily
  refs _ := []

/-- The aggregate type `framework_adoption`. -/
def aggregateType : AggregateType FrameworkAdoption Body := ⟨row, foreignKeys, constraints⟩

/-! ## The commands -/

/-- The columns of a `frameworks` row that the commands read. -/
structure Framework where
  id : Id
  catalogFamily : Option String
  isActive : Bool := true

/-- A session on the adoptions. -/
abbrev AdoptionSession := Session (Table FrameworkAdoption) Body

/-- `get_adoption`. -/
def getAdoption (s : AdoptionSession) (catalogFamily : String) : Option FrameworkAdoption :=
  (s.rows.toList.map Prod.snd).find? fun a => a.catalogFamily = catalogFamily

variable (P : Projection (Table FrameworkAdoption) Body) (clock : Clock) (s : AdoptionSession)

/-- `adopt_framework`, under the fresh `new_id()`. -/
def adoptFramework (newId : Id) (framework : Framework) (actor : Actor) :
    Outcome AdoptionSession :=
  match framework.catalogFamily with
  | none =>
    .raised s (.valueError ("Cannot adopt framework " ++ reprId framework.id ++
      ": it has no catalog_family (not part of a versioned system catalog)."))
  | some family =>
    match getAdoption s family with
    | some existing =>
      if existing.frameworkId = framework.id then .returned s
      else
        .raised s (.valueError ("catalog_family " ++ pyRepr family ++
          " is already adopted (framework_id=" ++ reprId existing.frameworkId ++
          ") — use upgrade_framework_adoption to move to a different version."))
    | none =>
      appendAndProject P clock s
        { aggregate := newId, body := .adopted family framework.id,
          actorType := actor.actorType, actorId := actor.actorId }

/-- `upgrade_framework_adoption`, on the row of the adoption, which the callers have loaded. -/
def upgradeFrameworkAdoption (id : Id) (toFramework : Framework) (actor : Actor) :
    Outcome AdoptionSession :=
  match s.rows[id]? with
  | none => .raised s .attributeError
  | some adoption =>
    if toFramework.catalogFamily ≠ some adoption.catalogFamily then
      .raised s (.valueError ("Cannot upgrade catalog_family " ++ pyRepr adoption.catalogFamily ++
        " to framework " ++ reprId toFramework.id ++ ", whose catalog_family is " ++
        (toFramework.catalogFamily.map pyRepr).getD "None" ++
        " — an upgrade must stay within the same catalog family."))
    else if toFramework.id = adoption.frameworkId then
      .raised s (.valueError ("Framework " ++ reprId toFramework.id ++
        " is already the adopted version for catalog_family " ++ pyRepr adoption.catalogFamily ++
        " — nothing to upgrade."))
    else if !toFramework.isActive then
      .raised s (.valueError ("Framework " ++ reprId toFramework.id ++
        " is inactive — cannot upgrade to an inactive framework."))
    else
      appendAndProject P clock s
        { aggregate := id
          body := .upgraded adoption.catalogFamily adoption.frameworkId toFramework.id
          actorType := actor.actorType
          actorId := actor.actorId }

/-- The commands on adoptions. -/
inductive Command
  | adopt (newId : Id) (framework : Framework) (actor : Actor)
  | upgrade (id : Id) (toFramework : Framework) (actor : Actor)

/-- Run a command. -/
def Command.run : Command → Outcome AdoptionSession
  | .adopt newId framework actor => adoptFramework P clock s newId framework actor
  | .upgrade id toFramework actor => upgradeFrameworkAdoption P clock s id toFramework actor

end MiniGrc.FrameworkAdoptions
