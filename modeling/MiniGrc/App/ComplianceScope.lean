import MiniGrc.App.Aggregates
import MiniGrc.App.Dates

/-!
# The compliance scope

`app/compliance_scope.py` and the `ComplianceScope` table of `app/models.py`.
-/

namespace MiniGrc.ComplianceScopes

open Events

/-- The payload of `ComplianceScopeDefined` and `ComplianceScopeRevised`. -/
structure Payload where
  serviceDescription : String
  trustServiceCategories : String
  auditPeriodStartsOn : Option Date
  auditPeriodEndsOn : Option Date
  dataCategories : String
  locations : String
  exclusions : String
  exclusionsRationale : String
  deriving DecidableEq, Repr

/-- A row of `compliance_scopes`; the key is its `id`. -/
structure ComplianceScope extends Payload where
  revision : Nat
  createdAt : Time
  updatedAt : Time
  deriving DecidableEq, Repr

/-- The bodies of the events of the type `compliance_scope`. -/
inductive Body
  | defined (payload : Payload)
  | revised (payload : Payload)
  deriving DecidableEq, Repr

/-- A row of `domain_events` of this type. -/
abbrev Event := DomainEvent Id Body String

/-- The row that `_project_defined` adds. -/
def projectDefined (event : Event) (payload : Payload) : ComplianceScope where
  toPayload := payload
  revision := 1
  createdAt := event.recordedAt
  updatedAt := event.recordedAt

/-- `_project_revised`. -/
def projectRevised (event : Event) (payload : Payload) (scope : ComplianceScope) :
    ComplianceScope :=
  { scope with
    toPayload := payload
    revision := scope.revision + 1
    updatedAt := event.recordedAt }

/-- `COMPLIANCE_SCOPE_PROJECTORS`. -/
def row (scope : Option ComplianceScope) (event : Event) : Except PyError ComplianceScope :=
  match event.body, scope with
  | .defined payload, none => .ok (projectDefined event payload)
  | .defined _, some _ => .error .integrityError
  | .revised payload, some scope => .ok (projectRevised event payload scope)
  | .revised _, none => .error .attributeError

/-- The aggregate type `compliance_scope`: no foreign keys and no unique index. -/
def aggregateType : AggregateType ComplianceScope Body where
  row := row
  foreignKeys _ := []
  constraints := ⟨fun _ _ => false, fun _ => []⟩

/-! ## The command -/

/-- `TRUST_SERVICE_CATEGORIES`. -/
def trustServiceCategories : List String :=
  ["security", "availability", "confidentiality", "processing_integrity", "privacy"]

/-- `_normalize_categories`. -/
def normalizeCategories (categories : List String) : Except PyError String :=
  let unknown := categories.dedup.filter (· ∉ trustServiceCategories)
  if unknown ≠ [] then
    .error (.valueError ("Unknown Trust Services Category value(s): " ++
      ", ".intercalate (unknown.mergeSort (· ≤ ·))))
  else
    let selected := categories ++ ["security"]
    .ok (",".intercalate (trustServiceCategories.filter (· ∈ selected)))

/-- `_validate_period`. -/
def validatePeriod (startsOn endsOn : Option Date) : Except PyError Unit :=
  match startsOn, endsOn with
  | some startsOn, some endsOn =>
    if endsOn < startsOn then
      .error (.valueError "audit_period_ends_on must not be before audit_period_starts_on")
    else .ok ()
  | _, _ => .ok ()

/-- A session on the scope. -/
abbrev ScopeSession := Session (Table ComplianceScope) Body

/-- `get_compliance_scope`, the id of the row. -/
def getComplianceScope (s : ScopeSession) : Option Id := (s.rows.toList.map Prod.fst).head?

/-- The arguments of `define_or_revise_scope`. -/
structure Fields where
  serviceDescription : String := ""
  trustServiceCategories : List String := []
  auditPeriodStartsOn : Option Date := none
  auditPeriodEndsOn : Option Date := none
  dataCategories : String := ""
  locations : String := ""
  exclusions : String := ""
  exclusionsRationale : String := ""

variable (P : Projection (Table ComplianceScope) Body) (clock : Clock) (s : ScopeSession)

/-- `define_or_revise_scope`; `newId` is the result of `new_id()`. -/
def defineOrReviseScope (newId : Id) (fields : Fields) (actor : Actor) : Outcome ScopeSession :=
  match validatePeriod fields.auditPeriodStartsOn fields.auditPeriodEndsOn with
  | .error e => .raised s e
  | .ok () =>
    match normalizeCategories fields.trustServiceCategories with
    | .error e => .raised s e
    | .ok categories =>
      let payload : Payload :=
        { fields with trustServiceCategories := categories }
      match getComplianceScope s with
      | some id =>
        appendAndProject P clock s
          { aggregate := id, body := .revised payload,
            actorType := actor.actorType, actorId := actor.actorId }
      | none =>
        appendAndProject P clock s
          { aggregate := newId, body := .defined payload,
            actorType := actor.actorType, actorId := actor.actorId }

/-- The commands on the scope. -/
inductive Command
  | defineOrRevise (newId : Id) (fields : Fields) (actor : Actor)

/-- Run a command. -/
def Command.run : Command → Outcome ScopeSession
  | .defineOrRevise newId fields actor => defineOrReviseScope P clock s newId fields actor

end MiniGrc.ComplianceScopes
