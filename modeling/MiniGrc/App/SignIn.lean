import MiniGrc.App.Users

/-!
# Sign-ins through Google and through OIDC

The callbacks of `app/routers/google_oidc.py` and `app/routers/oidc.py` from the verified
identity on, and `app/oidc_role_mapping.py`. `_resolve_user` is given what the callback does
with the user that it returns.
-/

namespace MiniGrc.Users

open Events

variable (lower : String → String)

/-! ## Messages -/

/-- `DISABLED_MESSAGE`. -/
def disabledMessage : String :=
  "Your account is no longer active. Contact an administrator."

/-- `PENDING_MESSAGE`. -/
def pendingMessage : String := "Your account is awaiting administrator approval."

/-- `UNAPPROVED_MESSAGE`. -/
def unapprovedMessage : String :=
  "Your account was created but needs administrator approval before you can sign in."

/-- A redirect to `/login` with an error. -/
def rejection (message : String) : Answer := .redirect "/login" message "error"

/-! ## Google -/

/-- A `GoogleIdentity`. -/
structure GoogleIdentity where
  subject : String
  email : String

/-- What the sign-ins look at of a `ResolvedGoogleOidcConfig` or a `ResolvedOidcConfig`. -/
structure SignInConfig where
  autoProvisionEnabled : Bool
  roleClaimName : String := "groups"

namespace Google

/-- `COLLISION_MESSAGE`. -/
def collisionMessage : String :=
  "This email is already linked to a different Google account. Contact an administrator."

/-- The user that a first sign-in creates. -/
def newUser (resolved : SignInConfig) (identity : GoogleIdentity) (normalizedEmail : String)
    (personId : Option Id) (isFirstUser : Bool) : User where
  email := normalizedEmail
  role := if isFirstUser ∧ resolved.autoProvisionEnabled then .admin else .operator
  status := if resolved.autoProvisionEnabled then .active else .pending
  googleSubject := some identity.subject
  personId := personId

/-- The end of `_resolve_user`, where the user is created. -/
def createUser (resolved : SignInConfig) (identity : GoogleIdentity) (normalizedEmail : String)
    (newId : Id) (next : Origin → User → List AuditEvent → Request) : Request :=
  .query fun s =>
  let personId := s.personByEmail normalizedEmail
  .query fun s =>
  let user := newUser resolved identity normalizedEmail personId s.users.isEmpty
  if resolved.autoProvisionEnabled then
    next (.added newId none) user [{
      entityType := "user"
      entityId := newId
      action := "create_via_google_oidc"
      detail := s!"Created user '{normalizedEmail}' via Google sign-in"
      actor := "system" }]
  else
    .finish (.saveUser (.added newId none) user [{
      entityType := "user"
      entityId := newId
      action := "create_via_google_oidc_pending"
      detail :=
        s!"Created pending user '{normalizedEmail}' via Google sign-in — awaiting admin approval"
      actor := "system" }]) (rejection unapprovedMessage)

/-- `_resolve_user`. -/
def resolveUser (resolved : SignInConfig) (identity : GoogleIdentity) (newId : Id)
    (next : Origin → User → List AuditEvent → Request) : Request :=
  let normalizedEmail := normalizeEmail lower identity.email
  .query fun s =>
  match s.userByGoogleSubject identity.subject with
  | some (id, user) =>
    if user.email ≠ normalizedEmail then
      .query fun s =>
      match (s.userByEmail normalizedEmail).filter fun owner => owner.1 ≠ id with
      | some _ => answer (rejection collisionMessage)
      | none =>
        next (.loaded id user) { user with email := normalizedEmail } [{
          entityType := "user"
          entityId := id
          action := "google_identity_email_changed"
          detail :=
            s!"Email changed from '{user.email}' to '{normalizedEmail}' via Google sign-in"
          actor := normalizedEmail }]
    else next (.loaded id user) user []
  | none =>
    .query fun s =>
    match s.userByEmail normalizedEmail with
    | some (id, user) =>
      -- an empty subject counts as none
      if user.googleSubject ≠ none ∧ user.googleSubject ≠ some "" ∧
          user.googleSubject ≠ some identity.subject then
        answer (rejection collisionMessage)
      else
        next (.loaded id user) { user with googleSubject := some identity.subject } [{
          entityType := "user"
          entityId := id
          action := "link_google_identity"
          detail := s!"Linked Google identity to existing user '{normalizedEmail}'"
          actor := normalizedEmail }]
    | none => createUser resolved identity normalizedEmail newId next

/-- `google_callback` after `_resolve_user`. -/
def signIn (origin : Origin) (user : User) (events : List AuditEvent) : Request :=
  match user.status with
  | .disabled => .finish (.saveUser origin user events) (rejection disabledMessage)
  | .pending => .finish (.saveUser origin user events) (rejection pendingMessage)
  | .active =>
    .finish (.saveUser origin user (events ++ [{
      entityType := "user"
      entityId := origin.userId
      action := "login_google_oidc"
      detail := "User signed in via Google OIDC"
      actor := user.email }])) (.session origin.userId)

/-- `google_callback`. -/
def callback (resolved : SignInConfig) (identity : GoogleIdentity) (newId : Id) : Request :=
  resolveUser lower resolved identity newId signIn

end Google

/-! ## Role mapping -/

/-- A claim of an ID token, with `str` of its items; `claims.get` gives `None` for a claim that
    is missing or null. -/
inductive ClaimValue
  | list (items : List String)
  | scalar (item : String)

/-- `_MAX_CLAIM_VALUES`. -/
def maxClaimValues : Nat := 1000

/-- `extract_claim_values`. -/
def extractClaimValues (claims : String → Option ClaimValue) (claimName : String) :
    List String :=
  match claims claimName with
  | none => []
  | some (.list items) => items.take maxClaimValues
  | some (.scalar item) => [item]

/-- `ROLE_PRECEDENCE`. -/
def rolePrecedence : List UserRole := [.admin, .operator, .reader, .auditor]

/-- `LEAST_PRIVILEGED_ROLE`. -/
def leastPrivilegedRole : UserRole := .reader

/-- `compute_mapped_role`. -/
def computeMappedRole (claimValues : List String) (mappingByValue : List (String × UserRole)) :
    UserRole :=
  let matchedRoles := claimValues.filterMap fun value => mappingByValue.lookup value
  (rolePrecedence.find? fun role => role ∈ matchedRoles).getD leastPrivilegedRole

/-- `load_role_mappings`: the later of two rows for one value counts. -/
def Accounts.loadRoleMappings (s : Accounts) : List (String × UserRole) :=
  (s.oidcRoleMappings.toList.map fun x => (x.2.claimValue, x.2.role)).reverse

/-- `{values}` for a list of strings. -/
def reprStrings (values : List String) : String :=
  "[" ++ ", ".intercalate (values.map pyRepr) ++ "]"

/-- `apply_role_mapping`: the user, and the audit event of a change. -/
def applyRoleMapping (mappingByValue : List (String × UserRole)) (id : Id) (user : User)
    (claims : String → Option ClaimValue) (roleClaimName actor : String) :
    User × List AuditEvent :=
  if mappingByValue = [] ∨ user.roleSource = .localRole then (user, [])
  else
    let claimValues := extractClaimValues claims roleClaimName
    let newRole := computeMappedRole claimValues mappingByValue
    if newRole = user.role ∧ user.roleSource = .oidcMapped then (user, [])
    else
      ({ user with role := newRole, roleSource := .oidcMapped }, [{
        entityType := "user"
        entityId := id
        action := "oidc_role_mapping_applied"
        detail := s!"Role changed from '{user.role.text}' to '{newRole.text}' via OIDC group " ++
          s!"mapping (claims: {reprStrings claimValues})"
        actor := actor }])

/-! ## OIDC -/

/-- An `OidcIdentity`. -/
structure OidcIdentity where
  issuer : String
  subject : String
  email : String
  claims : String → Option ClaimValue

namespace Oidc

/-- `COLLISION_MESSAGE`. -/
def collisionMessage : String :=
  "This email is already associated with a different account. Contact an administrator to " ++
    "link your single sign-on identity."

/-- The user that a first sign-in creates. -/
def newUser (resolved : SignInConfig) (normalizedEmail : String) (isFirstUser : Bool) : User where
  email := normalizedEmail
  role := if isFirstUser ∧ resolved.autoProvisionEnabled then .admin else .operator
  roleSource := if isFirstUser ∧ resolved.autoProvisionEnabled then .localRole else .oidcMapped
  status := if resolved.autoProvisionEnabled then .active else .pending

/-- The end of `_resolve_user`, where the user and its identity are created. -/
def createUser (resolved : SignInConfig) (identity : OidcIdentity) (normalizedEmail : String)
    (newId newIdentityId : Id) (next : Origin → User → List AuditEvent → Request) : Request :=
  .query fun s =>
  let user := newUser resolved normalizedEmail s.users.isEmpty
  let origin : Origin := .added newId (some (newIdentityId, {
    userId := newId
    issuer := identity.issuer
    subject := identity.subject }))
  if resolved.autoProvisionEnabled then
    next origin user [{
      entityType := "user"
      entityId := newId
      action := "create_via_oidc"
      detail :=
        s!"Created user '{normalizedEmail}' via generic OIDC sign-in ({identity.issuer})"
      actor := "system" }]
  else
    .finish (.saveUser origin user [{
      entityType := "user"
      entityId := newId
      action := "create_via_oidc_pending"
      detail := s!"Created pending user '{normalizedEmail}' via generic OIDC sign-in " ++
        s!"({identity.issuer}) — awaiting admin approval"
      actor := "system" }]) (rejection unapprovedMessage)

/-- `_resolve_user`. -/
def resolveUser (resolved : SignInConfig) (identity : OidcIdentity) (newId newIdentityId : Id)
    (next : Origin → User → List AuditEvent → Request) : Request :=
  .query fun s =>
  match s.externalIdentity identity.issuer identity.subject with
  | some existing =>
    .query fun s =>
    match s.users[existing.userId]? with
    | some user => next (.loaded existing.userId user) user []
    | none => answer (rejection "Sign-in was rejected.")
  | none =>
    let normalizedEmail := normalizeEmail lower identity.email
    .query fun s =>
    match s.userByEmail normalizedEmail with
    | some _ => answer (rejection collisionMessage)
    | none => createUser resolved identity normalizedEmail newId newIdentityId next

/-- `oidc_callback` after `_resolve_user`. -/
def signIn (resolved : SignInConfig) (identity : OidcIdentity) (origin : Origin) (user : User)
    (events : List AuditEvent) : Request :=
  match user.status with
  | .disabled => .finish (.saveUser origin user events) (rejection disabledMessage)
  | .pending => .finish (.saveUser origin user events) (rejection pendingMessage)
  | .active =>
    .query fun s =>
    let (user, mapped) := applyRoleMapping s.loadRoleMappings origin.userId user identity.claims
      resolved.roleClaimName "system"
    .finish (.saveUser origin user (events ++ mapped ++ [{
      entityType := "user"
      entityId := origin.userId
      action := "login_oidc"
      detail := s!"User signed in via generic OIDC ({identity.issuer})"
      actor := user.email }])) (.session origin.userId)

/-- `oidc_callback`. -/
def callback (resolved : SignInConfig) (identity : OidcIdentity) (newId newIdentityId : Id) :
    Request :=
  resolveUser lower resolved identity newId newIdentityId (signIn resolved identity)

end Oidc

end MiniGrc.Users
