import MiniGrc.ForStd.Except
import MiniGrc.ForStd.RedirectFlow
import MiniGrc.App.Dependencies
import MiniGrc.App.SignIn

/-!
# Single sign-on up to the identity

`app/oidc.py` and `app/google_oidc.py`, and the routes of `app/routers/oidc.py` and
`app/routers/google_oidc.py` up to the verified identity; what becomes of the identity is in
`App.SignIn`. The requests to a provider are parameters: what the token endpoint answers to
a code, whether the signing keys can be fetched and have signed the token. So are the libraries
that verify a token, `google-auth` and `joserfc`. The encoding of the authorization URL and the
logs are left out.
-/

namespace MiniGrc.OidcLogin

open Events
open Except (throwIf ofOption)
open RedirectFlow (Cookies AuthRequest Client)
open Routes (Response)
open Users (GoogleIdentity OidcIdentity SignInConfig ClaimValue)

/-! ## ID tokens -/

/-- The claims of an ID token; `claims.get` gives `None` for one that is missing. -/
structure Claims where
  iss : Option String
  /-- the audiences; a single one is a list of one -/
  aud : List String
  exp : Option Time
  iat : Option Time := none
  nbf : Option Time := none
  sub : Option String
  nonce : Option String
  /-- the truth value of the claim -/
  emailVerified : Bool
  email : Option String
  /-- the hosted domain of a Google account -/
  hd : Option String := none
  /-- the claims as the role mapping reads them -/
  values : String → Option ClaimValue := fun _ => none

/-- A raw ID token, with whether a key of the provider has signed it. -/
structure IdToken where
  claims : Claims
  signed : Bool

/-- What the token endpoint answers to a code. -/
inductive TokenResponse
  /-- no answer, or an error status -/
  | failed
  | notJson
  /-- JSON, but no object -/
  | notObject
  | payload (idToken : Option IdToken)

/-- A text, unless it is empty. -/
def truthy (text : Option String) : Option String := text.filter fun value => value ≠ ""

/-! ## The libraries -/

/-- How a library refuses a token: with an exception that its caller catches, or with another. -/
inductive Refusal
  | caught
  | uncaught

/-- A `JWTClaimsRegistry` of `joserfc`: the required values of `iss` and `aud`; an `exp` is
    required too. -/
structure ClaimsRegistry where
  iss : String
  aud : String

/-- The libraries: `str.lower`; `verify_oauth2_token` of `google-auth`, at a time and for an
    audience; `jwt.decode` of `joserfc` with the keys of the provider, and the `validate` of its
    claims registry, at a time. -/
structure Libraries where
  lower : String → String
  verifyOauth2Token : Time → IdToken → String → Except Refusal Claims
  decode : IdToken → Except Refusal Claims
  validate : Time → ClaimsRegistry → Claims → Except Refusal Unit

/-- What is relied on: the claims are those of a token that the provider has signed, and a
    registry that requires an issuer lets no other pass. -/
structure Libraries.Sound (libraries : Libraries) : Prop where
  verifyOauth2Token : ∀ now idToken audience claims,
    libraries.verifyOauth2Token now idToken audience = .ok claims →
    idToken.signed ∧ claims = idToken.claims
  decode : ∀ idToken claims, libraries.decode idToken = .ok claims →
    idToken.signed ∧ claims = idToken.claims
  validate : ∀ now registry claims, libraries.validate now registry claims = .ok () →
    claims.iss = some registry.iss

/-- What is outside: the clock, and whether the signing keys can be fetched. -/
structure Outside where
  now : Time
  keySetFetched : Bool

/-- A `ResolvedGoogleOidcConfig` or a `ResolvedOidcConfig`. -/
structure Resolved extends SignInConfig where
  usable : Bool
  issuer : String := ""
  clientId : String
  redirectUri : String
  allowedDomains : List String

/-- The parameters of the callback; they are empty by default. -/
structure CallbackParams where
  code : String
  state : String
  error : String := ""

/-- `_require_enabled`. -/
def requireEnabled (resolved : Resolved) (detail : String) : Except Response Unit :=
  throwIf (¬resolved.usable) (.httpError 404 detail)

/-- `redirect_with_flash("/login", message, kind="error")`. -/
def rejected (message : String) : Response := .redirectWithFlash "/login" message

/-- What ends a sign-in behind the comparison of the state: a `GoogleOidcError` or an `OidcError`
    with its text, or an exception that nobody catches. -/
inductive SignInError
  | oidc (message : String)
  | uncaught

/-- How a callback answers. -/
def SignInError.response : SignInError → Response
  | .oidc message => rejected message
  | .uncaught => .serverError

/-- A refused token. -/
def Refusal.error (message : String) : Refusal → SignInError
  | .caught => .oidc message
  | .uncaught => .uncaught

/-- The comparison of the state with its cookie. -/
def checkState (refusal : Response) (cookies : Cookies) (params : CallbackParams) :
    Except Response Unit := do
  let matched ← Routes.csrfTokensMatch cookies.state (some params.state)
  throwIf (¬matched) refusal

/-- The parameters of the authorization URL. -/
structure AuthorizationUrl where
  endpoint : String
  clientId : String
  redirectUri : String
  responseType : String := "code"
  scope : String := "openid email profile"
  state : String
  nonce : String

/-! ## Google -/

namespace Google

/-- `AUTHORIZATION_ENDPOINT`. -/
def authorizationEndpoint : String := "https://accounts.google.com/o/oauth2/v2/auth"

/-- `ALLOWED_ISSUERS`. -/
def allowedIssuers : List String := ["accounts.google.com", "https://accounts.google.com"]

/-- `google_login`, with a fresh state and a fresh nonce: the redirect and the cookies. -/
def login (resolved : Resolved) (state nonce : String) :
    Except Response (AuthorizationUrl × Cookies) := do
  requireEnabled resolved "Google sign-in is not configured"
  return ({
    endpoint := authorizationEndpoint
    clientId := resolved.clientId
    redirectUri := resolved.redirectUri
    state := state
    nonce := nonce }, { state := some state, nonce := some nonce })

/-- `exchange_code_for_id_token`. The answer is parsed outside the `try`. -/
def exchangeCodeForIdToken : TokenResponse → Except SignInError IdToken
  | .failed => .error (.oidc "Could not reach Google to complete sign-in.")
  | .notJson | .notObject => .error .uncaught
  | .payload none => .error (.oidc "Google did not return an ID token.")
  | .payload (some idToken) => .ok idToken

variable (libraries : Libraries) (outside : Outside)

/-- `verify_identity`. -/
def verifyIdentity (idToken : IdToken) (clientId expectedNonce : String)
    (allowedDomains : List String) : Except SignInError GoogleIdentity := do
  let claims ← (libraries.verifyOauth2Token outside.now idToken clientId).mapError
    (Refusal.error "Google sign-in could not be verified.")
  throwIf (¬∃ iss ∈ allowedIssuers, claims.iss = some iss) (.oidc "Unexpected token issuer.")
  let subject ← ofOption (truthy claims.sub)
    (.oidc "Google did not return a stable account identifier.")
  throwIf (expectedNonce = "" ∨ claims.nonce ≠ some expectedNonce)
    (.oidc "Invalid sign-in session (nonce mismatch).")
  throwIf (¬claims.emailVerified) (.oidc "Google account email is not verified.")
  throwIf (allowedDomains ≠ [] ∧ ¬∃ hd ∈ allowedDomains, claims.hd = some hd)
    (.oidc "This Google Workspace domain is not permitted to sign in.")
  let email ← ofOption (truthy claims.email) (.oidc "Google did not return an email address.")
  return { subject, email }

/-- `google_callback` up to the identity, given what the token endpoint answers. -/
def identify (resolved : Resolved) (cookies : Cookies) (params : CallbackParams)
    (tokens : TokenResponse) : Except Response GoogleIdentity := do
  requireEnabled resolved "Google sign-in is not configured"
  throwIf (params.error ≠ "") (rejected "Google sign-in was cancelled or failed.")
  checkState (rejected "Invalid sign-in session (state mismatch).") cookies params
  throwIf (params.code = "")
    (rejected "Google did not return an authorization code.")
  Except.mapError SignInError.response do
    let idToken ← exchangeCodeForIdToken tokens
    verifyIdentity libraries outside idToken resolved.clientId (cookies.nonce.getD "")
      resolved.allowedDomains

/-- `google_callback`: its request on the accounts, unless it ends before. -/
def callback (resolved : Resolved) (cookies : Cookies) (params : CallbackParams)
    (tokens : TokenResponse) (newId : Id) : Except Response Users.Request :=
  (identify libraries outside resolved cookies params tokens).map fun identity =>
    Users.Google.callback libraries.lower resolved.toSignInConfig identity newId

end Google

/-! ## OIDC -/

namespace Oidc

/-- A `ProviderMetadata`. -/
structure ProviderMetadata where
  issuer : String
  authorizationEndpoint : String
  tokenEndpoint : String
  jwksUri : String

/-- The discovery document of a provider. -/
structure DiscoveryDocument where
  issuer : Option String
  authorizationEndpoint : Option String
  tokenEndpoint : Option String
  jwksUri : Option String

/-- `discover_provider_metadata`, with the document if it can be fetched. -/
def discoverProviderMetadata (issuer : String) (document : Option DiscoveryDocument) :
    Except SignInError ProviderMetadata := do
  let document ← ofOption document
    (.oidc "Could not fetch the OIDC provider's discovery document.")
  throwIf (document.issuer ≠ some issuer)
    (.oidc "The OIDC provider's discovery document does not match the configured issuer.")
  match document.authorizationEndpoint, document.tokenEndpoint, document.jwksUri with
  | some authorizationEndpoint, some tokenEndpoint, some jwksUri =>
    return { issuer, authorizationEndpoint, tokenEndpoint, jwksUri }
  | _, _, _ =>
    throw (.oidc "The OIDC provider's discovery document is missing a required field.")

/-- `oidc_login`, with a fresh state and a fresh nonce: the redirect and the cookies. -/
def login (resolved : Resolved) (document : Option DiscoveryDocument) (state nonce : String) :
    Except Response (AuthorizationUrl × Cookies) := do
  requireEnabled resolved "Generic OIDC sign-in is not configured"
  let metadata ← (discoverProviderMetadata resolved.issuer document).mapError fun _ =>
    rejected "Single sign-on is temporarily unavailable."
  return ({
    endpoint := metadata.authorizationEndpoint
    clientId := resolved.clientId
    redirectUri := resolved.redirectUri
    state := state
    nonce := nonce }, { state := some state, nonce := some nonce })

/-- `exchange_code_for_id_token`. -/
def exchangeCodeForIdToken : TokenResponse → Except SignInError IdToken
  | .failed | .notJson =>
    .error (.oidc "Could not reach the OIDC provider to complete sign-in.")
  | .notObject => .error .uncaught
  | .payload none => .error (.oidc "The OIDC provider did not return an ID token.")
  | .payload (some idToken) => .ok idToken

/-- `email.rsplit("@", 1)[-1]`. -/
def domainOf (email : String) : String :=
  .ofList (email.toList.reverse.takeWhile fun c => c ≠ '@').reverse

variable (libraries : Libraries) (outside : Outside)

/-- `verify_identity`. -/
def verifyIdentity (idToken : IdToken) (metadata : ProviderMetadata)
    (clientId expectedNonce : String) (allowedDomains : List String) :
    Except SignInError OidcIdentity := do
  throwIf (¬outside.keySetFetched) (.oidc "Could not fetch the OIDC provider's signing keys.")
  let claims ← (libraries.decode idToken).mapError
    (Refusal.error "The OIDC provider's sign-in could not be verified.")
  (libraries.validate outside.now ⟨metadata.issuer, clientId⟩ claims).mapError
    (Refusal.error "The OIDC provider's sign-in could not be verified.")
  let subject ← ofOption (truthy claims.sub)
    (.oidc "The OIDC provider did not return a stable account identifier.")
  throwIf (expectedNonce = "" ∨ claims.nonce ≠ some expectedNonce)
    (.oidc "Invalid sign-in session (nonce mismatch).")
  throwIf (¬claims.emailVerified) (.oidc "The OIDC provider's account email is not verified.")
  let email ← ofOption (truthy claims.email)
    (.oidc "The OIDC provider did not return an email address.")
  throwIf (allowedDomains ≠ [] ∧ libraries.lower (domainOf email) ∉ allowedDomains)
    (.oidc "This account's email domain is not permitted to sign in.")
  return { issuer := metadata.issuer, subject, email, claims := claims.values }

/-- `oidc_callback` up to the identity, given the discovery document and what the token
    endpoint answers. -/
def identify (resolved : Resolved) (document : Option DiscoveryDocument) (cookies : Cookies)
    (params : CallbackParams) (tokens : TokenResponse) : Except Response OidcIdentity := do
  requireEnabled resolved "Generic OIDC sign-in is not configured"
  throwIf (params.error ≠ "") (rejected "Single sign-on was cancelled or failed.")
  checkState (rejected "Invalid sign-in session (state mismatch).") cookies params
  throwIf (params.code = "")
    (rejected "The OIDC provider did not return an authorization code.")
  Except.mapError SignInError.response do
    let metadata ← discoverProviderMetadata resolved.issuer document
    let idToken ← exchangeCodeForIdToken tokens
    verifyIdentity libraries outside idToken metadata resolved.clientId
      (cookies.nonce.getD "") resolved.allowedDomains

/-- `oidc_callback`: its request on the accounts, unless it ends before. -/
def callback (resolved : Resolved) (document : Option DiscoveryDocument) (cookies : Cookies)
    (params : CallbackParams) (tokens : TokenResponse) (newId newIdentityId : Id) :
    Except Response Users.Request :=
  (identify libraries outside resolved document cookies params tokens).map fun identity =>
    Users.Oidc.callback libraries.lower resolved.toSignInConfig identity newId newIdentityId

end Oidc

/-! ## Two clients of a redirect flow -/

/-- What a callback finds besides its request: the configuration at the time, what is
    outside, the discovery document, whether the token endpoint can be reached, and the ids
    that are drawn. -/
structure Circumstances where
  resolved : Resolved
  outside : Outside
  document : Option Oidc.DiscoveryDocument
  reachable : Bool
  newId : Id
  newIdentityId : Id

/-- The answer of the token endpoint: an error for a code that it has not issued. -/
def Circumstances.tokens (env : Circumstances) (idToken : Option IdToken) : TokenResponse :=
  if env.reachable then
    match idToken with
    | none => .failed
    | some idToken => .payload (some idToken)
  else .failed

/-- `app/routers/google_oidc.py`; what is accepted is a request on the accounts. -/
def googleClient (libraries : Libraries) : Client Circumstances IdToken Users.Request where
  drawsNonce := true
  nonceOf idToken := idToken.claims.nonce
  callback env cookies code state idToken :=
    (Google.callback libraries env.outside env.resolved cookies { code, state }
      (env.tokens idToken) env.newId).toOption

/-- `app/routers/oidc.py`. -/
def oidcClient (libraries : Libraries) : Client Circumstances IdToken Users.Request where
  drawsNonce := true
  nonceOf idToken := idToken.claims.nonce
  callback env cookies code state idToken :=
    (Oidc.callback libraries env.outside env.resolved env.document cookies { code, state }
      (env.tokens idToken) env.newId env.newIdentityId).toOption

end MiniGrc.OidcLogin
