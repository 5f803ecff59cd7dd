import MiniGrc.ForStd.RevocableRows
import MiniGrc.ForStd.TransactionJournal
import MiniGrc.App.Dependencies
import MiniGrc.App.UserAdmin

/-!
# Sessions and API tokens

The two kinds of tokens that the application issues: browser sessions (`app/routers/auth.py`
and `require_login` of `app/deps.py`) and the API tokens of the read-only MCP server
(`app/api_tokens.py`, `app/routers/admin_api_tokens.py` and `ApiTokenVerifier` of
`app/mcp_server.py`). Of both only the hash of the raw token is stored.

A request is a transaction on the accounts, the sessions and the tokens; the requests of
`Users.Call` take part as they are, and a sign-in among them starts a session in its own
transaction. The CSRF checks read no table and are left out.
-/

namespace MiniGrc.Access

open Events
open Users (Accounts AuditEvent User UserStatus)
open Routes (UserSession)

/-! ## The tables -/

/-- A row of `api_tokens`; the key is its `id`. -/
structure ApiToken where
  name : String
  tokenHash : String
  /-- `API_TOKEN_SCOPES` has one entry -/
  scope : String := "read"
  createdByUserId : Id
  createdAt : Time
  expiresAt : Option Time := none
  lastUsedAt : Option Time := none
  revokedAt : Option Time := none

/-- The tables. -/
structure Tables where
  accounts : Accounts
  userSessions : Table UserSession
  apiTokens : Table ApiToken

/-- What is outside: `hash_session_token`, `str.lower`, the password that the hash in the row
    of a user verifies, and `settings.session_ttl_hours`. -/
structure Environment where
  hashSessionToken : String → String
  lower : String → String
  verifyPassword : Id → String → Bool
  sessionTtl : Time

/-! ## Changes -/

/-- The row that `start_user_session` adds. -/
structure NewSession where
  userId : Id
  tokenHash : String
  createdAt : Time
  expiresAt : Time
  deriving DecidableEq

/-- A session that has been started is not revoked. -/
def NewSession.row (new : NewSession) : UserSession where
  userId := new.userId
  tokenHash := new.tokenHash
  createdAt := new.createdAt
  expiresAt := new.expiresAt

/-- The row that `create_api_token` adds. -/
structure NewToken where
  name : String
  tokenHash : String
  createdByUserId : Id
  createdAt : Time
  expiresAt : Option Time
  deriving DecidableEq

/-- A token that has been created is not revoked. -/
def NewToken.row (new : NewToken) : ApiToken where
  name := new.name
  tokenHash := new.tokenHash
  createdByUserId := new.createdByUserId
  createdAt := new.createdAt
  expiresAt := new.expiresAt

/-- What a request flushes and commits. -/
inductive Change
  /-- a change of the accounts, with the session that a sign-in starts -/
  | accounts (change : Users.Change) (started : Option (Id × NewSession))
  | signOut (sessionId : Id) (now : Time) (event : AuditEvent)
  | createToken (tokenId : Id) (new : NewToken) (event : AuditEvent)
  | revokeToken (tokenId : Id) (now : Time) (event : AuditEvent)
  /-- `last_used_at`, of a token that was loaded with this value -/
  | useToken (tokenId : Id) (loaded : Option Time) (now : Time)

namespace Tables

variable (s : Tables)

/-- The tables with an audit event added. -/
def audit (event : AuditEvent) : Tables := { s with accounts := s.accounts.audit [event] }

/-- The `INSERT` of a session; the hash is unique, and the user is a foreign key. -/
def insertSession (sessionId : Id) (new : NewSession) : Except PyError Tables :=
  if sessionId ∈ s.userSessions ∨
      (s.userSessions.toList.any fun x => x.2.tokenHash == new.tokenHash) ∨
      new.userId ∉ s.accounts.users then .error .integrityError
  else .ok { s with userSessions := s.userSessions.insert sessionId new.row }

/-- The `INSERT` of a token. -/
def insertToken (tokenId : Id) (new : NewToken) : Except PyError Tables :=
  if tokenId ∈ s.apiTokens ∨
      (s.apiTokens.toList.any fun x => x.2.tokenHash == new.tokenHash) ∨
      new.createdByUserId ∉ s.accounts.users then .error .integrityError
  else .ok { s with apiTokens := s.apiTokens.insert tokenId new.row }

end Tables

/-- The flush and the commit of a change. An `UPDATE` sets the changed columns of whatever
    the row holds by then; rows are never removed. -/
def Change.apply (change : Change) (s : Tables) : Except PyError Tables :=
  match change with
  | .accounts change started => do
    let accounts ← change.apply s.accounts
    match started with
    | none => return { s with accounts }
    | some (sessionId, new) => Tables.insertSession { s with accounts } sessionId new
  | .signOut sessionId now event =>
    match s.userSessions[sessionId]? with
    | none => .error .integrityError
    | some row =>
      .ok (Tables.audit { s with
        userSessions := s.userSessions.insert sessionId { row with revokedAt := some now } } event)
  | .createToken tokenId new event => (s.insertToken tokenId new).map fun s => s.audit event
  | .revokeToken tokenId now event =>
    match s.apiTokens[tokenId]? with
    | none => .error .integrityError
    | some row =>
      .ok (Tables.audit { s with
        apiTokens := s.apiTokens.insert tokenId { row with revokedAt := some now } } event)
  | .useToken tokenId loaded now =>
    match s.apiTokens[tokenId]? with
    | none => .error .integrityError
    | some row =>
      let lastUsedAt := Users.flushed loaded (some now) row.lastUsedAt
      .ok { s with apiTokens := s.apiTokens.insert tokenId { row with lastUsedAt } }

/-! ## Requests -/

/-- How a request is answered. -/
inductive Answer
  /-- a redirect or an error -/
  | page (answer : Users.Answer)
  /-- the redirect of `start_user_session`, which sets the cookie -/
  | signedIn (sessionId userId : Id)
  /-- a page for a user who is signed in -/
  | viewed (userId : Id)
  /-- the page that shows the new token -/
  | created (tokenId : Id) (plaintext : String)
  /-- an `AccessToken` -/
  | accessToken (clientId : Id) (scopes : List String)
  /-- `None`: the bearer is not authenticated -/
  | unauthenticated

/-- A request. -/
abbrev Request := Txn Tables Change Answer

/-- No change. -/
def Change.nothing : Change := .accounts .none none

/-- A request that ends without a change. -/
def answer (a : Answer) : Request := .finish .nothing a

/-- `redirect_with_flash`. -/
def redirect (url message kind : String) : Request := answer (.page (.redirect url message kind))

variable (env : Environment)

/-! ## `app/deps.py` -/

/-- The columns of a session that never change. -/
def sessions : Revocable UserSession NewSession where
  fixed row := ⟨row.userId, row.tokenHash, row.createdAt, row.expiresAt⟩
  revoked row := row.revokedAt.isSome

/-- `_redirect_to_login`. -/
def redirectToLogin (message : Option String) : Request :=
  answer (.page (Users.redirectToLogin message))

/-- `require_login`, with the value of the session cookie. -/
def requireLogin (rawToken : String) (now : Time) (next : Id → Id → User → Request) : Request :=
  if rawToken = "" then redirectToLogin none
  else
    .query fun s =>
    match sessions.find NewSession.tokenHash s.userSessions (env.hashSessionToken rawToken) with
    | none => redirectToLogin none
    | some (sessionId, session) =>
      if session.revokedAt.isSome then redirectToLogin none
      else if session.expiresAt < now then redirectToLogin none
      else
        .query fun s => Users.requireActive s.accounts.users[session.userId]? redirectToLogin
          (next sessionId session.userId)

/-- `require_admin`. -/
def requireAdmin (rawToken : String) (now : Time) (next : Id → User → Request) : Request :=
  requireLogin env rawToken now fun _ userId user =>
    if user.role = .admin then next userId user
    else answer (.page (.httpError 403 "Admin privileges required"))

/-- A page that asks for a login only. -/
def view (rawToken : String) (now : Time) : Request :=
  requireLogin env rawToken now fun _ userId _ => answer (.viewed userId)

/-! ## `app/routers/auth.py` -/

/-- The end of a request on the accounts; `start_user_session` with a fresh id and a fresh
    token if it is a sign-in. -/
def startUserSession (sessionId : Id) (rawToken : String) (now : Time) (change : Users.Change) :
    Users.Answer → Request
  | .session userId =>
    .finish (.accounts change (some (sessionId, {
      userId := userId
      tokenHash := env.hashSessionToken rawToken
      createdAt := now
      expiresAt := now + env.sessionTtl }))) (.signedIn sessionId userId)
  | a => .finish (.accounts change none) (.page a)

/-- `login_submit`. -/
def loginSubmit (email password : String) (sessionId : Id) (rawToken : String) (now : Time) :
    Request :=
  .query fun s =>
  match s.accounts.userByEmail (Users.normalizeEmail env.lower email) with
  | none => redirect "/login" "Invalid email or password." "error"
  | some (userId, user) =>
    if env.verifyPassword userId password = false then
      redirect "/login" "Invalid email or password." "error"
    else
      match user.status with
      | .pending => redirect "/login" "Your account is awaiting administrator approval." "error"
      | .disabled =>
        redirect "/login" "Your account is no longer active. Contact an administrator." "error"
      | .active =>
        startUserSession env sessionId rawToken now
          (.saveActor user.email [] [{
            entityType := "user"
            entityId := userId
            action := "login"
            detail := "User signed in"
            actor := user.email }]) (.session userId)

/-- `logout`. -/
def logout (rawToken : String) (now : Time) : Request :=
  requireLogin env rawToken now fun sessionId userId user =>
    .finish (.signOut sessionId now {
      entityType := "user"
      entityId := userId
      action := "logout"
      detail := "User signed out"
      actor := user.email }) (.page (.redirect "/login" "Signed out." "success"))

/-! ## `app/api_tokens.py` and its routes -/

/-- The columns of an API token that never change. -/
def tokens : Revocable ApiToken NewToken where
  fixed row := ⟨row.name, row.tokenHash, row.createdByUserId, row.createdAt, row.expiresAt⟩
  revoked row := row.revokedAt.isSome

/-- `create_api_token`, with its fresh id and its fresh token. -/
def createApiToken (name : String) (actorId : Id) (actor : User) (expiresAt : Option Time)
    (now : Time) (tokenId : Id) (plaintext : String) : Request :=
  .finish (.createToken tokenId {
      name := name
      tokenHash := env.hashSessionToken plaintext
      createdByUserId := actorId
      createdAt := now
      expiresAt := expiresAt } {
      entityType := "api_token"
      entityId := tokenId
      action := "create"
      detail := s!"Created read-only API token '{name}' (id={tokenId})."
      actor := actor.email })
    (.created tokenId plaintext)

/-- `create_api_token_route`. The page gives no `expires_at`; here it is any value that
    `create_api_token` takes. -/
def createApiTokenRoute (rawToken : String) (now : Time) (name : String)
    (expiresAt : Option Time) (tokenId : Id) (plaintext : String) : Request :=
  requireAdmin env rawToken now fun adminId admin =>
    if stripText name = "" then
      redirect "/admin/api-tokens/new" "Name is required." "error"
    else createApiToken env (stripText name) adminId admin expiresAt now tokenId plaintext

/-- `revoke_api_token_route`. -/
def revokeApiToken (rawToken : String) (now : Time) (tokenId : Id) : Request :=
  requireAdmin env rawToken now fun _ admin =>
    .query fun s =>
    match s.apiTokens[tokenId]? with
    | none => answer (.page (.httpError 404 "API token not found"))
    | some token =>
      if token.revokedAt.isSome then
        redirect "/admin/api-tokens" s!"'{token.name}' was already revoked." "success"
      else
        .finish (.revokeToken tokenId now {
            entityType := "api_token"
            entityId := tokenId
            action := "revoke"
            detail := s!"Revoked API token '{token.name}' (id={tokenId})."
            actor := admin.email })
          (.page (.redirect "/admin/api-tokens" s!"Revoked '{token.name}'." "success"))

/-- `verify_api_token`, as `ApiTokenVerifier.verify_token` calls it. -/
def verifyApiToken (rawToken : String) (now : Time) : Request :=
  if rawToken = "" then answer .unauthenticated
  else
    .query fun s =>
    match tokens.find NewToken.tokenHash s.apiTokens (env.hashSessionToken rawToken) with
    | none => answer .unauthenticated
    | some (tokenId, token) =>
      if token.revokedAt.isSome then answer .unauthenticated
      else if token.expiresAt.any fun expiresAt => expiresAt < now then answer .unauthenticated
      else .finish (.useToken tokenId token.lastUsedAt now) (.accessToken tokenId [token.scope])

/-! ## The requests -/

/-- The requests. -/
inductive Call
  /-- a request on the accounts; a sign-in draws the id and the token of a session -/
  | accounts (call : Users.Call) (sessionId : Id) (rawToken : String) (now : Time)
  | login (email password : String) (sessionId : Id) (rawToken : String) (now : Time)
  | logout (cookie : String) (now : Time)
  | view (cookie : String) (now : Time)
  | createApiToken (cookie : String) (now : Time) (name : String) (expiresAt : Option Time)
      (tokenId : Id) (plaintext : String)
  | revokeApiToken (cookie : String) (now : Time) (tokenId : Id)
  | verifyApiToken (bearer : String) (now : Time)

/-- What serves a request. -/
def Call.serve : Call → Request
  | .accounts call sessionId rawToken now =>
    (call.serve env.lower).onPart Tables.accounts (startUserSession env sessionId rawToken now)
  | .login email password sessionId rawToken now =>
    loginSubmit env email password sessionId rawToken now
  | .logout cookie now => Access.logout env cookie now
  | .view cookie now => Access.view env cookie now
  | .createApiToken cookie now name expiresAt tokenId plaintext =>
    createApiTokenRoute env cookie now name expiresAt tokenId plaintext
  | .revokeApiToken cookie now tokenId => Access.revokeApiToken env cookie now tokenId
  | .verifyApiToken bearer now => Access.verifyApiToken env bearer now

/-- A server with any number of requests under way, and the journal of what it has
    committed. -/
abbrev State (ι : Type) := Server.Journaling ι Call Tables Change Answer

/-- A step of the server. -/
def step {ι : Type} [DecidableEq ι] : State ι → Server.Label ι Call → Option (State ι) :=
  Server.journaledStep (Call.serve env) Change.apply

/-- The start: nobody has signed in, no token has been created, and no request is under way. -/
def State.initial {ι : Type} (accounts : Accounts) : State ι :=
  ⟨.idle ⟨accounts, ∅, ∅⟩, [], []⟩

end MiniGrc.Access
