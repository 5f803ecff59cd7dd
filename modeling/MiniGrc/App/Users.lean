import MiniGrc.ForStd.Table
import MiniGrc.ForStd.Transactions
import MiniGrc.App.Projection

/-!
# Users

The accounts of `app/models.py`: users, the external identities that are linked to them, the
mapping from OIDC claims to roles, and the columns of the schema that keep the e-mail address
of whoever made a change. A request reads the accounts query by query and ends in one
`Change`; a route that raises ends in no change.

`str.lower` and `utcnow()` are parameters of the requests; a fresh `new_id()` is an argument.
-/

namespace MiniGrc.Users

open Events

/-! ## The rows -/

/-- `USER_ROLES`. -/
inductive UserRole
  | admin
  | operator
  | reader
  | auditor
  deriving DecidableEq, Repr

/-- `USER_STATUSES`. -/
inductive UserStatus
  | active
  | disabled
  | pending
  deriving DecidableEq, Repr

/-- `ROLE_SOURCES`. -/
inductive RoleSource
  /-- `"local"` -/
  | localRole
  | oidcMapped
  deriving DecidableEq, Repr

/-- A role as a string. -/
def UserRole.text : UserRole → String
  | .admin => "admin"
  | .operator => "operator"
  | .reader => "reader"
  | .auditor => "auditor"

/-- The role that a string denotes. -/
def UserRole.parse : String → Option UserRole
  | "admin" => some .admin
  | "operator" => some .operator
  | "reader" => some .reader
  | "auditor" => some .auditor
  | _ => none

/-- A status as a string. -/
def UserStatus.text : UserStatus → String
  | .active => "active"
  | .disabled => "disabled"
  | .pending => "pending"

/-- The status that a string denotes. -/
def UserStatus.parse : String → Option UserStatus
  | "active" => some .active
  | "disabled" => some .disabled
  | "pending" => some .pending
  | _ => none

/-- A row of `users`; the key is its `id`. -/
structure User where
  email : String
  role : UserRole := .operator
  status : UserStatus := .active
  roleSource : RoleSource := .localRole
  googleSubject : Option String := none
  personId : Option Id := none
  piiRedactedAt : Option Time := none
  deriving DecidableEq

/-- The user is an active admin. -/
def User.isActiveAdmin (user : User) : Bool := user.role = .admin ∧ user.status = .active

/-- A row of `external_identities`; the key is its `id`. -/
structure ExternalIdentity where
  userId : Id
  issuer : String
  subject : String
  deriving DecidableEq

/-- A row of `oidc_role_mappings`; the key is its `id`. -/
structure OidcRoleMapping where
  claimValue : String
  role : UserRole
  deriving DecidableEq

/-- A row of `audit_events`. -/
structure AuditEvent where
  entityType : String
  entityId : Id
  action : String
  detail : String
  actor : String
  deriving DecidableEq

/-- The string columns of the schema that name the author of a row by an e-mail address.
    `finding_remediation_updates.actor` is none of them: it keeps the id of a user. -/
inductive ActorColumn
  | auditEvent
  | policyVersionUploader
  | controlPeriodCreatedBy
  | controlTestPopulationCreatedBy
  | controlTestSampleCreatedBy
  | requirementAssessmentLastReviewedBy
  | requirementNoteAuthor
  | secretCreatedBy
  | externalConnectionCreatedBy
  | jobCreatedBy
  | importJobCreatedBy
  | googleOidcSettingsUpdatedBy
  | oidcProviderSettingsUpdatedBy
  | oidcRoleMappingUpdatedBy
  deriving DecidableEq

/-- The `__tablename__` of the table that a column belongs to. -/
def ActorColumn.tableName : ActorColumn → String
  | .auditEvent => "audit_events"
  | .policyVersionUploader => "policy_versions"
  | .controlPeriodCreatedBy => "control_periods"
  | .controlTestPopulationCreatedBy => "control_test_populations"
  | .controlTestSampleCreatedBy => "control_test_samples"
  | .requirementAssessmentLastReviewedBy => "requirement_assessments"
  | .requirementNoteAuthor => "requirement_notes"
  | .secretCreatedBy => "secrets"
  | .externalConnectionCreatedBy => "external_connections"
  | .jobCreatedBy => "jobs"
  | .importJobCreatedBy => "import_jobs"
  | .googleOidcSettingsUpdatedBy => "google_oidc_settings"
  | .oidcProviderSettingsUpdatedBy => "oidc_provider_settings"
  | .oidcRoleMappingUpdatedBy => "oidc_role_mappings"

/-! ## The tables -/

/-- The tables. -/
structure Accounts where
  users : Table User
  /-- `people.email` -/
  people : Table String
  externalIdentities : Table ExternalIdentity
  oidcRoleMappings : Table OidcRoleMapping
  auditEvents : List AuditEvent
  /-- the actor columns of the other tables, by row -/
  actorStrings : ActorColumn → Table String

namespace Accounts

variable (s : Accounts)

/-- The values of an actor column. -/
def actors (column : ActorColumn) : List String :=
  if column = .auditEvent then s.auditEvents.map AuditEvent.actor
  else (s.actorStrings column).toList.map Prod.snd

/-- `select(User).where(User.email == email)`. -/
def userByEmail (email : String) : Option (Id × User) :=
  s.users.toList.find? fun x => x.2.email = email

/-- `select(User).where(User.google_subject == subject)`. -/
def userByGoogleSubject (subject : String) : Option (Id × User) :=
  s.users.toList.find? fun x => x.2.googleSubject = some subject

/-- The row of `external_identities` for an issuer and a subject. -/
def externalIdentity (issuer subject : String) : Option ExternalIdentity :=
  (s.externalIdentities.toList.find? fun x => x.2.issuer = issuer ∧ x.2.subject = subject).map
    Prod.snd

/-- `select(Person).where(Person.email == email)`. -/
def personByEmail (email : String) : Option Id :=
  (s.people.toList.find? fun x => x.2 = email).map Prod.fst

/-- `_active_admin_count`. -/
def activeAdminCount (excludingUserId : Id) : Nat :=
  (s.users.toList.filter fun x => x.2.isActiveAdmin ∧ x.1 ≠ excludingUserId).length

end Accounts

/-! ## Changes -/

/-- How a user row came into the session. -/
inductive Origin
  /-- it was read, with these values -/
  | loaded (id : Id) (row : User)
  /-- it is new, with its identity at an OIDC provider if it has one -/
  | added (id : Id) (identity : Option (Id × ExternalIdentity))

/-- The id of the user. -/
def Origin.userId : Origin → Id
  | .loaded id _ => id
  | .added id _ => id

/-- What a flush leaves of a column: it is written if its value differs from the loaded one. -/
def flushed {α : Type} [DecidableEq α] (loaded value stored : α) : α :=
  if value = loaded then stored else value

/-- The stored row after the `UPDATE` of a flush. -/
def User.update (loaded user stored : User) : User where
  email := flushed loaded.email user.email stored.email
  role := flushed loaded.role user.role stored.role
  status := flushed loaded.status user.status stored.status
  roleSource := flushed loaded.roleSource user.roleSource stored.roleSource
  googleSubject := flushed loaded.googleSubject user.googleSubject stored.googleSubject
  personId := flushed loaded.personId user.personId stored.personId
  piiRedactedAt := flushed loaded.piiRedactedAt user.piiRedactedAt stored.piiRedactedAt

/-- What a request flushes and commits. -/
inductive Change
  | none
  /-- a user, and audit events -/
  | saveUser (origin : Origin) (user : User) (events : List AuditEvent)
  /-- rows of other tables that name `actor` in a column, and audit events -/
  | saveActor (actor : String) (cells : List (ActorColumn × Id)) (events : List AuditEvent)
  /-- the updates of `redact_user_pii` to the actor columns, the user, and the audit event -/
  | redact (columns : List ActorColumn) (oldEmail newEmail : String) (id : Id)
      (loaded user : User) (event : AuditEvent)

namespace Accounts

variable (s : Accounts)

/-- A user row with the address or the Google subject of another, in a column that was
    written; both are unique. -/
def Clashes (id : Id) (stored : Option User) (row : User) : Prop :=
  ∃ x ∈ s.users.toList, x.1 ≠ id ∧
    (x.2.email = row.email ∧ stored.map User.email ≠ some row.email ∨
      x.2.googleSubject = row.googleSubject ∧ row.googleSubject ≠ none ∧
        stored.map User.googleSubject ≠ some row.googleSubject)

instance (id : Id) (stored : Option User) (row : User) : Decidable (s.Clashes id stored row) :=
  inferInstanceAs (Decidable (∃ x ∈ s.users.toList, _))

/-- The `UPDATE` of a user row that was loaded. -/
def updateUser (id : Id) (loaded user : User) : Except PyError Accounts :=
  match s.users[id]? with
  | none => .ok s
  | some stored =>
    let row := loaded.update user stored
    if s.Clashes id (some stored) row then .error .integrityError
    else .ok { s with users := s.users.insert id row }

/-- The `INSERT` of a user, and of the identity. -/
def insertUser (id : Id) (user : User) (identity : Option (Id × ExternalIdentity)) :
    Except PyError Accounts :=
  if id ∈ s.users ∨ s.Clashes id none user then .error .integrityError
  else
    let s := { s with users := s.users.insert id user }
    match identity with
    | none => .ok s
    | some (identityId, row) =>
      if identityId ∈ s.externalIdentities ∨
          (s.externalIdentity row.issuer row.subject).isSome then .error .integrityError
      else .ok { s with externalIdentities := s.externalIdentities.insert identityId row }

/-- The accounts with audit events added. -/
def audit (events : List AuditEvent) : Accounts :=
  { s with auditEvents := s.auditEvents ++ events }

/-- A row of another table names its author. -/
def writeActor (actor : String) (cell : ActorColumn × Id) : Accounts :=
  { s with
    actorStrings := Function.update s.actorStrings cell.1
      ((s.actorStrings cell.1).insert cell.2 actor) }

/-- `update(model).where(column == old_email).values(column=new_email)`. -/
def replaceActor (oldEmail newEmail : String) (column : ActorColumn) : Accounts :=
  let replace (actor : String) := if actor = oldEmail then newEmail else actor
  if column = .auditEvent then
    { s with auditEvents := s.auditEvents.map fun e => { e with actor := replace e.actor } }
  else
    { s with
      actorStrings := Function.update s.actorStrings column
        ((s.actorStrings column).map fun _ => replace) }

end Accounts

/-- The flush and the commit of a change. -/
def Change.apply (change : Change) (s : Accounts) : Except PyError Accounts :=
  match change with
  | .none => .ok s
  | .saveUser (.loaded id row) user events =>
    (s.updateUser id row user).map fun s => s.audit events
  | .saveUser (.added id identity) user events =>
    (s.insertUser id user identity).map fun s => s.audit events
  | .saveActor actor cells events =>
    .ok ((cells.foldl (fun s cell => s.writeActor actor cell) s).audit events)
  | .redact columns oldEmail newEmail id loaded user event =>
    let s := columns.foldl (fun s column => s.replaceActor oldEmail newEmail column) s
    (s.updateUser id loaded user).map fun s => s.audit [event]

/-- How a request is answered. -/
inductive Answer
  /-- `redirect_with_flash`, with the kind of the message -/
  | redirect (url message kind : String)
  /-- `start_user_session` -/
  | session (userId : Id)
  /-- an `HTTPException` -/
  | httpError (statusCode : Nat) (detail : String)
  /-- a `ValueError` -/
  | valueError (message : String)
  /-- a `UserRedactionReport` -/
  | report (userId : Id) (alreadyRedacted : Bool) (rowsUpdatedByTable : List (String × Nat))
  deriving DecidableEq

/-- A request on the accounts. -/
abbrev Request := Txn Accounts Change Answer

/-- A request that ends without a change. -/
def answer (a : Answer) : Request := .finish .none a

/-- `normalize_email`. -/
def normalizeEmail (lower : String → String) (email : String) : String :=
  lower (stripText email)

/-- `_redirect_to_login`. -/
def redirectToLogin : Option String → Answer
  | none => .redirect "/login" "" ""
  | some message => .redirect "/login" message "error"

/-- The end of `require_login`, from the row of the user on. -/
def requireActive {β : Type} (user : Option User) (refuse : Option String → β)
    (next : User → β) : β :=
  match user with
  | none => refuse none
  | some user =>
    match user.status with
    | .active => next user
    | .pending => refuse (some "Your account is awaiting administrator approval.")
    | .disabled =>
      refuse (some "Your account is no longer active. Contact an administrator.")

/-- `require_login`, for the user of the session of the request. -/
def requireLogin (userId : Id) (next : User → Request) : Request :=
  .query fun s => requireActive s.users[userId]? (fun message => answer (redirectToLogin message))
    next

/-- `require_admin`. -/
def requireAdmin (userId : Id) (next : User → Request) : Request :=
  requireLogin userId fun user =>
    if user.role = .admin then next user
    else answer (.httpError 403 "Admin privileges required")

end MiniGrc.Users
