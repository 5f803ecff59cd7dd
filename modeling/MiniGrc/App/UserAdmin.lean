import Mathlib.Algebra.GroupWithZero.Nat
import MiniGrc.App.SignIn

/-!
# The administration and the redaction of users

`create_user` and `update_user` of `app/routers/admin_users.py`, `redact_user_pii` of
`app/pii_redaction.py`, and the requests that leave the address of their user in an actor
column. `Call` lists the requests on the accounts.
-/

namespace MiniGrc.Users

open Events

variable (lower : String → String)

/-! ## `app/routers/admin_users.py` -/

/-- `create_user`, as a request of the user `adminId`. -/
def createUser (adminId : Id) (email : String) (newId : Id) : Request :=
  requireAdmin adminId fun admin =>
  let normalized := normalizeEmail lower email
  .query fun s =>
  match s.userByEmail normalized with
  | some _ =>
    answer (.redirect "/admin/users/new" "A user with that email already exists." "error")
  | none =>
    .finish (.saveUser (.added newId none) { email := normalized } [{
      entityType := "user"
      entityId := newId
      action := "create_via_admin"
      detail := s!"Added user '{normalized}' (sign in with Google or an admin-set password)"
      actor := admin.email }]) (.redirect "/admin/users" s!"Added {normalized}." "success")

/-- `db.get(User, user_id)`; the row of the admin has been loaded already. -/
def getUser (adminId userId : Id) (admin : User) (next : Option User → Request) : Request :=
  if userId = adminId then next (some admin) else .query fun s => next s.users[userId]?

/-- The end of `update_user`. -/
def saveEdit (userId : Id) (admin user : User) (role : UserRole) (status : UserStatus) : Request :=
  .finish (.saveUser (.loaded userId user)
    { user with role := role, status := status, roleSource := .localRole } [{
      entityType := "user"
      entityId := userId
      action := "update_role_status"
      detail := s!"Set role={role.text} status={status.text} for '{user.email}'"
      actor := admin.email }]) (.redirect "/admin/users" s!"Updated {user.email}." "success")

/-- `update_user`, as a request of the user `adminId`. -/
def updateUser (adminId userId : Id) (role status : String) : Request :=
  requireAdmin adminId fun admin =>
  getUser adminId userId admin fun user =>
  match user with
  | none => answer (.httpError 404 "User not found")
  | some user =>
    match UserRole.parse role, UserStatus.parse status with
    | some role, some status =>
      let editUrl := s!"/admin/users/{userId}/edit"
      let remainsActiveAdmin := role = .admin ∧ status = .active
      if userId = adminId ∧ status ≠ .active then
        answer (.redirect editUrl "You cannot disable your own account." "error")
      else if user.isActiveAdmin ∧ ¬ remainsActiveAdmin then
        .query fun s =>
        if s.activeAdminCount userId = 0 then
          answer (.redirect editUrl
            "At least one active admin must remain — promote another user first." "error")
        else saveEdit userId admin user role status
      else saveEdit userId admin user role status
    | _, _ => answer (.httpError 422 "Invalid role or status")

/-! ## `app/pii_redaction.py` -/

/-- `_ACTOR_STRING_COLUMNS`. -/
def actorStringColumns : List ActorColumn :=
  [.auditEvent, .policyVersionUploader, .controlPeriodCreatedBy,
    .controlTestPopulationCreatedBy, .controlTestSampleCreatedBy,
    .requirementAssessmentLastReviewedBy, .secretCreatedBy, .externalConnectionCreatedBy,
    .jobCreatedBy, .importJobCreatedBy]

/-- `redacted-user-<id>@redacted.invalid`. -/
def redactedEmail (userId : Id) : String := s!"redacted-user-{userId}@redacted.invalid"

/-- `rows_updated_by_table`. -/
def rowsUpdatedByTable (s : Accounts) (oldEmail : String) : List (String × Nat) :=
  (actorStringColumns.map fun column =>
    (column.tableName, (s.actors column).count oldEmail)).filter fun x => x.2 ≠ 0

/-- `redact_user_pii`, of a user that `actorId` has loaded. -/
def redactUserPii (now : Time) (userId actorId : Id) : Request :=
  .query fun s =>
  match s.users[userId]?, s.users[actorId]? with
  | some user, some actor =>
    if user.piiRedactedAt ≠ none then answer (.report userId true [])
    else if user.status ≠ .disabled then
      answer (.valueError (s!"Cannot redact PII for user {reprId userId}: status is " ++
        s!"{pyRepr user.status.text}, must be 'disabled'."))
    else
      let newEmail := redactedEmail userId
      let rowsUpdated := rowsUpdatedByTable s user.email
      let count := (rowsUpdated.map Prod.snd).sum
      .finish (.redact actorStringColumns user.email newEmail userId user
        { user with email := newEmail, piiRedactedAt := some now } {
          entityType := "user"
          entityId := userId
          action := "redact_pii"
          detail := s!"Redacted PII for disabled user '{userId}' (login email and {count} " ++
            s!"historical actor-string reference(s) across {rowsUpdated.length} table(s))."
          -- the actor may be the redacted user
          actor := if actorId = userId then newEmail else actor.email })
        (.report userId false rowsUpdated)
  | _, _ => answer (.httpError 404 "User not found")

/-! ## The requests -/

/-- A request of a signed-in user that records its author in rows of other tables and in
    audit events. -/
def recordActor (userId : Id) (cells : List (ActorColumn × Id)) (events : List AuditEvent) :
    Request :=
  requireLogin userId fun user =>
  .finish (.saveActor user.email cells (events.map fun e => { e with actor := user.email }))
    (.redirect "/" "" "success")

/-- The requests. -/
inductive Call
  | google (resolved : SignInConfig) (identity : GoogleIdentity) (newId : Id)
  | oidc (resolved : SignInConfig) (identity : OidcIdentity) (newId newIdentityId : Id)
  | createUser (adminId : Id) (email : String) (newId : Id)
  | updateUser (adminId userId : Id) (role status : String)
  | redact (now : Time) (userId actorId : Id)
  | record (userId : Id) (cells : List (ActorColumn × Id)) (events : List AuditEvent)

/-- What serves a request. -/
def Call.serve : Call → Request
  | .google resolved identity newId => Google.callback lower resolved identity newId
  | .oidc resolved identity newId newIdentityId =>
    Oidc.callback lower resolved identity newId newIdentityId
  | .createUser adminId email newId => Users.createUser lower adminId email newId
  | .updateUser adminId userId role status => Users.updateUser adminId userId role status
  | .redact now userId actorId => redactUserPii now userId actorId
  | .record userId cells events => recordActor userId cells events

/-- The accounts after a request that is served alone, with its answer. -/
def Accounts.serve (s : Accounts) (c : Call) : Except PyError (Accounts × Answer) :=
  (c.serve lower).run Change.apply s

/-- A request that is served alone; one that raises is rolled back. -/
def Accounts.step (s : Accounts) (c : Call) : Option Accounts :=
  some ((s.serve lower c).toOption.elim s Prod.fst)

end MiniGrc.Users
