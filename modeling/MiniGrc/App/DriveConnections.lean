import Mathlib.Data.List.MinMax
import MiniGrc.ForStd.RevocableRows
import MiniGrc.ForStd.TransactionJournal
import MiniGrc.App.OidcLogin

/-!
# The Google Drive connection

`app/routers/google_drive.py` with `app/crypto.py` and the parts of `app/google_drive.py` that
it calls: an administrator connects the organisation's Drive, the refresh token is stored
encrypted, and whoever needs an access token takes it from the active connection.

A request is a transaction on the connections. The dependencies of the routes are in
`App.Dependencies`: `admin` is the user that `require_admin` has let in. Fernet, the requests
to Google and the clock are parameters; the page that lists the connections is left out.
-/

namespace MiniGrc.DriveConnections

open Events
open Except (throwIf ofOption)
open OidcLogin (CallbackParams checkState truthy)
open RedirectFlow (Client Cookies)
open Routes (Response)
open Users (AuditEvent)

/-! ## `app/crypto.py` -/

/-- `EncryptionNotConfiguredError` and `DecryptionError`. -/
inductive CryptoError
  | encryptionNotConfigured (message : String)
  | decryption (message : String)
  deriving DecidableEq

/-- `str(exc)`. -/
def CryptoError.message : CryptoError → String
  | .encryptionNotConfigured message | .decryption message => message

/-- `cryptography.fernet`: which keys are valid, and what a token is for a key, a text and
    random bytes. -/
structure Fernet where
  validKey : String → Bool
  encrypt : String → String → Nat → String
  decrypt : String → String → Option String

/-- `_fernet`. -/
def checkKey (fernet : Fernet) (key : String) : Except CryptoError Unit := do
  throwIf (key = "") (.encryptionNotConfigured
    "GRC_ENCRYPTION_KEY is not configured — required to store integration credentials.")
  throwIf (¬fernet.validKey key)
    (.encryptionNotConfigured "GRC_ENCRYPTION_KEY is not a valid Fernet key.")

/-- `encrypt`. -/
def encrypt (fernet : Fernet) (plaintext key : String) (random : Nat) :
    Except CryptoError String := do
  checkKey fernet key
  return fernet.encrypt key plaintext random

/-- `decrypt`. -/
def decrypt (fernet : Fernet) (ciphertext key : String) : Except CryptoError String := do
  checkKey fernet key
  ofOption (fernet.decrypt key ciphertext)
    (.decryption "Stored credential could not be decrypted with the configured key.")

/-! ## The tables -/

/-- A row of `google_drive_connections`; the key is its `id`. -/
structure GoogleDriveConnection where
  connectedByUserId : Id
  connectedAt : Time
  grantedScopes : String
  encryptedRefreshToken : String
  lastSuccessfulSyncAt : Option Time := none
  revokedAt : Option Time := none
  revokedByUserId : Option Id := none

/-- The tables. -/
structure Tables where
  connections : Table GoogleDriveConnection
  auditEvents : List AuditEvent

/-- The settings. -/
structure Settings where
  googleDriveClientId : String
  googleDriveClientSecret : String
  publicBaseUrl : String
  encryptionKey : String
  googleWorkspaceDirectoryEnabled : Bool

/-- `google_drive_configured`. -/
def Settings.googleDriveConfigured (settings : Settings) : Prop :=
  settings.googleDriveClientId ≠ "" ∧ settings.googleDriveClientSecret ≠ "" ∧
    settings.publicBaseUrl ≠ "" ∧ settings.encryptionKey ≠ ""

instance (settings : Settings) : Decidable settings.googleDriveConfigured :=
  inferInstanceAs (Decidable (_ ∧ _ ∧ _ ∧ _))

/-- `google_drive_redirect_uri`. -/
def Settings.googleDriveRedirectUri (settings : Settings) : String :=
  .ofList (settings.publicBaseUrl.toList.reverse.dropWhile fun c => c = '/').reverse ++
    "/connectors/google-drive/callback"

/-- The row that a callback adds. -/
structure NewConnection where
  connectedByUserId : Id
  connectedAt : Time
  grantedScopes : String
  encryptedRefreshToken : String
  deriving DecidableEq

/-- A connection is active at first. -/
def NewConnection.row (new : NewConnection) : GoogleDriveConnection where
  connectedByUserId := new.connectedByUserId
  connectedAt := new.connectedAt
  grantedScopes := new.grantedScopes
  encryptedRefreshToken := new.encryptedRefreshToken

/-- What a request flushes and commits. -/
inductive Change
  | nothing
  | connect (id : Id) (new : NewConnection) (event : AuditEvent)
  | disconnect (id : Id) (now : Time) (userId : Id) (event : AuditEvent)
  /-- `last_successful_sync_at` -/
  | sync (id : Id) (now : Time)
  deriving DecidableEq

/-- The flush and the commit of a change. An `UPDATE` sets the changed columns of whatever the
    row holds by then; rows are never removed. -/
def Change.apply (change : Change) (s : Tables) : Except PyError Tables :=
  match change with
  | .nothing => .ok s
  | .connect id new event =>
    if id ∈ s.connections then .error .integrityError
    else .ok ⟨s.connections.insert id new.row, s.auditEvents ++ [event]⟩
  | .disconnect id now userId event =>
    match s.connections[id]? with
    | none => .error .integrityError
    | some row =>
      .ok ⟨s.connections.insert id { row with
        encryptedRefreshToken := ""
        revokedAt := some now
        revokedByUserId := some userId }, s.auditEvents ++ [event]⟩
  | .sync id now =>
    match s.connections[id]? with
    | none => .error .integrityError
    | some row =>
      .ok { s with
        connections := s.connections.insert id { row with lastSuccessfulSyncAt := some now } }

/-- `active_connection`. Rows of one `connected_at` come in the order of the table; the query
    leaves it open. -/
def activeConnection (s : Tables) : Option (Id × GoogleDriveConnection) :=
  (s.connections.toList.filter fun x => x.2.revokedAt.isNone).argmax fun x => x.2.connectedAt

/-! ## Connecting -/

/-- `redirect_with_flash("/connectors/google-drive", message, kind="error")`. -/
def rejected (message : String) : Response :=
  .redirectWithFlash "/connectors/google-drive" message

/-- `_require_configured`. -/
def requireConfigured (settings : Settings) : Except Response Unit :=
  throwIf (¬settings.googleDriveConfigured)
    (.httpError 404 "Google Drive connector is not configured")

/-- The parameters of the authorization URL. -/
structure AuthorizationUrl where
  clientId : String
  redirectUri : String
  responseType : String := "code"
  scope : String
  accessType : String := "offline"
  prompt : String := "consent"
  includeGrantedScopes : String := "true"
  state : String

/-- `DRIVE_SCOPE`. -/
def driveScope : String := "https://www.googleapis.com/auth/drive.readonly"

/-- `DIRECTORY_SCOPE`. -/
def directoryScope : String :=
  "https://www.googleapis.com/auth/admin.directory.user.readonly"

/-- `connect`, with a fresh state: the redirect and the cookie. -/
def connect (settings : Settings) (state : String) :
    Except Response (AuthorizationUrl × Cookies) := do
  requireConfigured settings
  return ({
    clientId := settings.googleDriveClientId
    redirectUri := settings.googleDriveRedirectUri
    scope := if settings.googleWorkspaceDirectoryEnabled then s!"{driveScope} {directoryScope}"
      else driveScope
    state := state }, { state := some state })

/-- What the token endpoint grants for a code. -/
structure Tokens where
  refreshToken : Option String
  scope : Option String

/-- What the token endpoint answers. -/
inductive TokenResponse
  /-- no answer, or an error status -/
  | failed
  | notJson
  | payload (tokens : Tokens)

/-- `exchange_code_for_tokens`: the refresh token and the scopes. The answer is parsed outside
    the `try`. -/
def exchangeCodeForTokens : TokenResponse → Except Response (String × String)
  | .failed => .error (rejected "Could not reach Google to complete the Drive connection.")
  | .notJson => .error .serverError
  | .payload tokens => do
    let refreshToken ← ofOption (truthy tokens.refreshToken) (rejected
      ("Google did not return a refresh token. Revoke this app's prior access at " ++
        "https://myaccount.google.com/permissions and try connecting again."))
    return (refreshToken, tokens.scope.getD "")

/-- A user that `require_admin` has let in. -/
structure Admin where
  id : Id
  email : String

/-- What is outside of a callback: the clock, `new_id()` and the random bytes of the
    encryption. -/
structure Fresh where
  now : Time
  newId : Id
  random : Nat

variable (fernet : Fernet) (settings : Settings)

/-- `callback`: the change, unless it is refused. -/
def callbackChange (admin : Admin) (cookies : Cookies) (params : CallbackParams)
    (tokens : TokenResponse) (fresh : Fresh) : Except Response Change := do
  requireConfigured settings
  throwIf (params.error ≠ "") (rejected "Google Drive connection was cancelled or failed.")
  checkState (rejected "Invalid connection session (state mismatch).") cookies params
  throwIf (params.code = "") (rejected "Google did not return an authorization code.")
  let (refreshToken, scope) ← exchangeCodeForTokens tokens
  let encryptedRefreshToken ← (encrypt fernet refreshToken settings.encryptionKey
    fresh.random).mapError fun exc => rejected exc.message
  return .connect fresh.newId {
      connectedByUserId := admin.id
      connectedAt := fresh.now
      grantedScopes := scope
      encryptedRefreshToken := encryptedRefreshToken } {
      entityType := "google_drive_connection"
      entityId := fresh.newId
      action := "connect"
      detail := s!"Connected Google Drive (scopes: {scope})"
      actor := admin.email }

/-! ## Requests -/

/-- How a request is answered. -/
inductive Answer
  | page (response : Response)
  | connected
  /-- a disconnect, which has asked Google to revoke the token that it could decrypt -/
  | disconnected (revokedToken : Option String)
  /-- what a caller of `get_access_token_for_active_connection` goes on with -/
  | accessToken (connectionId : Id) (accessToken : String)
  deriving DecidableEq

/-- A request. -/
abbrev Request := Txn Tables Change Answer

/-- `callback`. -/
def callback (admin : Admin) (cookies : Cookies) (params : CallbackParams)
    (tokens : TokenResponse) (fresh : Fresh) : Request :=
  match callbackChange fernet settings admin cookies params tokens fresh with
  | .error response => .finish .nothing (.page response)
  | .ok change => .finish change .connected

/-- `disconnect`. -/
def disconnect (admin : Admin) (now : Time) : Request :=
  .query fun s =>
  match activeConnection s with
  | none => .finish .nothing (.page (rejected "No active Google Drive connection."))
  | some (id, connection) =>
    .finish (.disconnect id now admin.id {
        entityType := "google_drive_connection"
        entityId := id
        action := "disconnect"
        detail := "Disconnected Google Drive"
        actor := admin.email })
      (.disconnected
        (decrypt fernet connection.encryptedRefreshToken settings.encryptionKey).toOption)

/-- `get_access_token_for_active_connection`: the connection and its refresh token. -/
def resolveRefreshToken (s : Tables) : Except String (Id × String) := do
  let (id, connection) ← ofOption (activeConnection s)
    "Connect Google Drive first (Connectors > Google Drive)."
  let refreshToken ← (decrypt fernet connection.encryptedRefreshToken
    settings.encryptionKey).mapError CryptoError.message
  return (id, refreshToken)

/-- `get_access_token_for_active_connection`, given what Google answers to a refresh token. -/
def getAccessTokenForActiveConnection (refresh : String → Option String) (s : Tables) :
    Except String (Id × String) := do
  let (id, refreshToken) ← resolveRefreshToken fernet settings s
  let accessToken ← ofOption (refresh refreshToken)
    ("Could not refresh the Google Drive connection's access token. " ++
      "The connection may have been revoked and should be reconnected.")
  return (id, accessToken)

/-- A route that works with the active connection, `url` its page; `synced` is the time that
    `capture_drive_version` keeps as `last_successful_sync_at` if it comes to its end. -/
def useConnection (url : String) (refresh : String → Option String) (synced : Option Time) :
    Request :=
  .query fun s =>
  match getAccessTokenForActiveConnection fernet settings refresh s with
  | .error message => .finish .nothing (.page (.redirectWithFlash url message))
  | .ok (id, accessToken) =>
    .finish (synced.elim .nothing fun now => .sync id now) (.accessToken id accessToken)

/-- The requests. -/
inductive Call
  | callback (admin : Admin) (cookies : Cookies) (params : CallbackParams)
      (tokens : TokenResponse) (fresh : Fresh)
  | disconnect (admin : Admin) (now : Time)
  | use (url : String) (refresh : String → Option String) (synced : Option Time)

/-- What serves a request. -/
def Call.serve : Call → Request
  | .callback admin cookies params tokens fresh =>
    DriveConnections.callback fernet settings admin cookies params tokens fresh
  | .disconnect admin now => DriveConnections.disconnect fernet settings admin now
  | .use url refresh synced => useConnection fernet settings url refresh synced

/-- A server with any number of requests under way, and the journal of what it has committed and
    of the requests. -/
abbrev State (ι : Type) := Server.Journaling ι Call Tables Change Answer

/-- A step of the server. -/
def step {ι : Type} [DecidableEq ι] : State ι → Server.Label ι Call → Option (State ι) :=
  Server.journaledStep (Call.serve fernet settings) Change.apply

/-- The start: Drive has never been connected, and no request is under way. -/
def State.initial {ι : Type} : State ι := ⟨.idle ⟨∅, []⟩, [], []⟩

/-! ## A client of a redirect flow -/

/-- What a callback finds besides its request: the settings at the time, who is signed in,
    whether the token endpoint can be reached, and what is drawn. -/
structure Circumstances where
  settings : Settings
  admin : Admin
  reachable : Bool
  fresh : Fresh

/-- The answer of the token endpoint: an error for a code that it has not issued. -/
def Circumstances.tokens (env : Circumstances) (granted : Option Tokens) : TokenResponse :=
  if env.reachable then granted.elim .failed .payload else .failed

/-- `connect` and `callback`; what is accepted is the change. There is no nonce. -/
def driveClient : Client Circumstances Tokens Change where
  drawsNonce := false
  nonceOf _ := none
  callback env cookies code state granted :=
    (callbackChange fernet env.settings env.admin cookies { code, state } (env.tokens granted)
      env.fresh).toOption

end MiniGrc.DriveConnections
