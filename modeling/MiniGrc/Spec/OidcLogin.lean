import MiniGrc.App.OidcLogin

/-!
# Single sign-on against an adversary

The two sign-ins of `App.OidcLogin` as clients of a redirect flow. An adversary may send a
browser to the callback with any code and any state, run sign-ins of his own and get hold of
every code that the provider issues. The libraries that verify tokens are sound.

## Key results

- `Google.verifyIdentity_eq_ok`, `Oidc.verifyIdentity_eq_ok`: which tokens are accepted
- `checksNonce`: both clients check the nonce
- `signed_in_as_consented`: a browser is signed in only as whoever has consented in it
- `adversary_signed_in`: a code of somebody else's sign-in is of no use to the adversary
-/

namespace MiniGrc.OidcLogin

open Except (bind_eq_ok map_eq_ok mapError_eq_ok throwIf_eq_ok ofOption_eq_ok)
open RedirectFlow
open Routes (Response)
open Users (GoogleIdentity OidcIdentity)

variable {libraries : Libraries} {outside : Outside} {resolved : Resolved} {cookies : Cookies}
  {params : CallbackParams}

/-! ## Which tokens are accepted -/

/-- A text counts where it is given and not empty. -/
theorem truthy_eq_some_iff {text : Option String} {value : String} :
    truthy text = some value ↔ text = some value ∧ value ≠ "" := by
  simp [truthy, Option.filter_eq_some_iff]

/-- The claims name the subject and the email of an identity, a verified email, and the nonce
    of the sign-in. -/
structure Claims.Name (claims : Claims) (subject email nonce : String) : Prop where
  sub : claims.sub = some subject ∧ subject ≠ ""
  email : claims.email = some email ∧ email ≠ ""
  emailVerified : claims.emailVerified
  nonce : nonce ≠ "" ∧ claims.nonce = some nonce

/-- `google_oidc.verify_identity` accepts a token that Google has signed, for this sign-in, of
    a permitted domain. -/
theorem Google.verifyIdentity_eq_ok (hlibraries : libraries.Sound) {idToken : IdToken}
    {clientId nonce : String} {allowedDomains : List String} {identity : GoogleIdentity}
    (h : verifyIdentity libraries outside idToken clientId nonce allowedDomains = .ok identity) :
    idToken.signed ∧ (∃ iss ∈ allowedIssuers, idToken.claims.iss = some iss) ∧
      idToken.claims.Name identity.subject identity.email nonce ∧
      (allowedDomains ≠ [] → ∃ hd ∈ allowedDomains, idToken.claims.hd = some hd) := by
  simp only [verifyIdentity, bind_eq_ok, throwIf_eq_ok, ofOption_eq_ok, mapError_eq_ok,
    truthy_eq_some_iff, not_not, not_or, not_and_not_right] at h
  obtain ⟨claims, hverified, -, hissuer, subject, hsub, -, ⟨hempty, hnonce⟩, -, hemailVerified, -,
    hdomain, email, hemail, heq⟩ := h
  obtain ⟨hsigned, rfl⟩ := hlibraries.verifyOauth2Token _ _ _ _ hverified
  cases heq
  exact ⟨hsigned, hissuer, ⟨hsub, hemail, hemailVerified, hempty, hnonce⟩, hdomain⟩

/-- `oidc.verify_identity` accepts a token that the provider has signed, for this sign-in, of
    the issuer and of a permitted domain. -/
theorem Oidc.verifyIdentity_eq_ok (hlibraries : libraries.Sound) {idToken : IdToken}
    {metadata : ProviderMetadata} {clientId nonce : String} {allowedDomains : List String}
    {identity : OidcIdentity}
    (h : verifyIdentity libraries outside idToken metadata clientId nonce allowedDomains =
      .ok identity) :
    idToken.signed ∧ idToken.claims.iss = some identity.issuer ∧
      idToken.claims.Name identity.subject identity.email nonce ∧
      (allowedDomains ≠ [] → libraries.lower (domainOf identity.email) ∈ allowedDomains) ∧
      identity.claims = idToken.claims.values := by
  simp only [verifyIdentity, bind_eq_ok, throwIf_eq_ok, ofOption_eq_ok, mapError_eq_ok,
    truthy_eq_some_iff, not_not, not_or, not_and_not_right] at h
  obtain ⟨-, -, claims, hdecode, _, hvalid, subject, hsub, -, ⟨hempty, hnonce⟩, -, hverified,
    email, hemail, -, hdomain, heq⟩ := h
  obtain ⟨hsigned, rfl⟩ := hlibraries.decode _ _ hdecode
  cases heq
  exact ⟨hsigned, hlibraries.validate _ _ _ hvalid,
    ⟨hsub, hemail, hverified, hempty, hnonce⟩, hdomain, rfl⟩

/-! ## How a sign-in begins -/

section Start

variable {β ε γ α : Type} [DecidableEq β] {client : Client ε γ α} {w w' : World β ε γ α} {b : β}

/-- The provider is asked with the state and the nonce that the cookies keep. -/
theorem Google.login_eq_ok {state nonce : String} {url : AuthorizationUrl}
    (h : login resolved state nonce = .ok (url, cookies)) :
    cookies = ⟨some url.state, some url.nonce⟩ := by
  obtain ⟨-, -, h⟩ := bind_eq_ok.1 h
  cases h
  rfl

/-- A login keeps its state and its nonce in cookies. -/
theorem Oidc.login_eq_ok {document : Option DiscoveryDocument} {state nonce : String}
    {url : AuthorizationUrl} (h : login resolved document state nonce = .ok (url, cookies)) :
    cookies = ⟨some url.state, some url.nonce⟩ := by
  obtain ⟨-, -, h⟩ := bind_eq_ok.1 h
  obtain ⟨metadata, -, h⟩ := bind_eq_ok.1 h
  cases h
  rfl

/-- What `google_login` does is the start of a flow: the browser gets its cookies, and is sent
    to the provider with the request of the URL. -/
theorem Google.login_starts {state nonce : String} {url : AuthorizationUrl}
    (h : login resolved state nonce = .ok (url, cookies))
    (hs : step client w (.start b ⟨url.state, some url.nonce⟩) = some w') :
    w'.cookies b = cookies ∧ (b, ⟨url.state, some url.nonce⟩) ∈ w'.requests := by
  rw [login_eq_ok h]
  exact cookies_of_start hs

/-- A login starts a flow with its state and its nonce. -/
theorem Oidc.login_starts {document : Option DiscoveryDocument} {state nonce : String}
    {url : AuthorizationUrl} (h : login resolved document state nonce = .ok (url, cookies))
    (hs : step client w (.start b ⟨url.state, some url.nonce⟩) = some w') :
    w'.cookies b = cookies ∧ (b, ⟨url.state, some url.nonce⟩) ∈ w'.requests := by
  rw [login_eq_ok h]
  exact cookies_of_start hs

end Start

/-! ## What the callbacks accept -/

/-- The state of a sign-in that goes on is that of its cookie. -/
theorem state_of_checkState {refusal : Response} {u : Unit}
    (h : checkState refusal cookies params = .ok u) :
    cookies.state = some params.state := by
  obtain ⟨matched, hmatched, h⟩ := bind_eq_ok.1 h
  obtain rfl : matched = true := by simpa using h
  unfold Routes.csrfTokensMatch at hmatched
  -- Both must be given, and be equal.
  split at hmatched
  · next cookie submitted hcookie hsubmitted =>
    cases hsubmitted
    split at hmatched
    · cases hmatched
    · split at hmatched
      · obtain rfl : cookie = params.state := by simpa using hmatched
        exact hcookie
      · cases hmatched
  · cases hmatched

/-- An answer with a token is one to a code of the provider. -/
theorem token_of_tokens {env : Circumstances} {content : Option IdToken} {idToken : IdToken}
    (h : env.tokens content = .payload (some idToken)) : content = some idToken := by
  unfold Circumstances.tokens at h
  split at h
  · cases content with
    | none => cases h
    | some token =>
      cases h
      rfl
  · cases h

/-- The token is the one the exchange brings. -/
theorem Google.token_of_exchange {tokens : TokenResponse} {idToken : IdToken}
    (h : exchangeCodeForIdToken tokens = .ok idToken) : tokens = .payload (some idToken) := by
  unfold exchangeCodeForIdToken at h
  split at h <;> cases h
  rfl

/-- The token is the one the exchange brings. -/
theorem Oidc.token_of_exchange {tokens : TokenResponse} {idToken : IdToken}
    (h : exchangeCodeForIdToken tokens = .ok idToken) : tokens = .payload (some idToken) := by
  unfold exchangeCodeForIdToken at h
  split at h <;> cases h
  rfl

/-- The two sign-ins. -/
inductive Provider
  | google
  | oidc

/-- The client of a sign-in. -/
def Provider.client (libraries : Libraries) : Provider → Client Circumstances IdToken Users.Request
  | .google => googleClient libraries
  | .oidc => oidcClient libraries

/-- The request on the accounts is what the callback that finds `env` makes of a signed token,
    which names the identity and the nonce. -/
def Provider.SignsIn (libraries : Libraries) (provider : Provider) (env : Circumstances)
    (idToken : IdToken) (nonce : String) (request : Users.Request) : Prop :=
  env.resolved.usable ∧ idToken.signed ∧
    match provider with
    | .google => ∃ identity, idToken.claims.Name identity.subject identity.email nonce ∧
        (env.resolved.allowedDomains ≠ [] →
          ∃ hd ∈ env.resolved.allowedDomains, idToken.claims.hd = some hd) ∧
        request = Users.Google.callback libraries.lower env.resolved.toSignInConfig identity
          env.newId
    | .oidc => ∃ identity, idToken.claims.Name identity.subject identity.email nonce ∧
        idToken.claims.iss = some identity.issuer ∧ identity.claims = idToken.claims.values ∧
        (env.resolved.allowedDomains ≠ [] →
          libraries.lower (Oidc.domainOf identity.email) ∈ env.resolved.allowedDomains) ∧
        request = Users.Oidc.callback libraries.lower env.resolved.toSignInConfig identity
          env.newId env.newIdentityId

/-- The nonce of the cookie, if a token names it. -/
theorem nonce_of_name {claims : Claims} {subject email : String} {nonce : Option String}
    (h : claims.Name subject email (nonce.getD "")) :
    ∃ value, nonce = some value ∧ claims.Name subject email value := by
  cases nonce with
  | none => exact absurd rfl h.nonce.1
  | some value => exact ⟨value, rfl, h⟩

/-- What a callback accepts: the state and the nonce are those of the cookies, and the token
    of the code signs in. -/
theorem signsIn_of_callback (hlibraries : libraries.Sound) {provider : Provider}
    {env : Circumstances} {code state : String} {content : Option IdToken}
    {request : Users.Request}
    (h : (provider.client libraries).callback env cookies code state content = some request) :
    cookies.state = some state ∧ ∃ nonce idToken, cookies.nonce = some nonce ∧
      content = some idToken ∧ provider.SignsIn libraries env idToken nonce request := by
  -- Each provider checks its own claims.
  cases provider with
  | google =>
    obtain ⟨identity, hidentify, rfl⟩ := map_eq_ok.1 (Except.eq_ok_of_toOption h)
    simp only [Google.identify, bind_eq_ok, throwIf_eq_ok, mapError_eq_ok, requireEnabled,
      not_not] at hidentify
    obtain ⟨-, husable, -, -, _, hstate, -, -, idToken, hexchange, hverify⟩ := hidentify
    obtain ⟨hsigned, -, hname, hdomain⟩ := Google.verifyIdentity_eq_ok hlibraries hverify
    obtain ⟨nonce, hnonce, hname⟩ := nonce_of_name hname
    exact ⟨state_of_checkState hstate, nonce, idToken, hnonce,
      token_of_tokens (Google.token_of_exchange hexchange), husable, hsigned, identity, hname,
      hdomain, rfl⟩
  | oidc =>
    obtain ⟨identity, hidentify, rfl⟩ := map_eq_ok.1 (Except.eq_ok_of_toOption h)
    simp only [Oidc.identify, bind_eq_ok, throwIf_eq_ok, mapError_eq_ok, requireEnabled,
      not_not] at hidentify
    obtain ⟨-, husable, -, -, _, hstate, -, -, metadata, -, idToken, hexchange, hverify⟩ :=
      hidentify
    obtain ⟨hsigned, hissuer, hname, hdomain, hvalues⟩ :=
      Oidc.verifyIdentity_eq_ok hlibraries hverify
    obtain ⟨nonce, hnonce, hname⟩ := nonce_of_name hname
    exact ⟨state_of_checkState hstate, nonce, idToken, hnonce,
      token_of_tokens (Oidc.token_of_exchange hexchange), husable, hsigned, identity, hname,
      hissuer, hvalues, hdomain, rfl⟩

/-- The nonce of a token is its claim. -/
theorem nonceOf_client (provider : Provider) (idToken : IdToken) :
    (provider.client libraries).nonceOf idToken = idToken.claims.nonce := by
  cases provider <;> rfl

/-- The nonce of the token is the cookie's. -/
theorem Provider.SignsIn.nonce_eq {provider : Provider} {env : Circumstances} {idToken : IdToken}
    {nonce : String} {request : Users.Request}
    (h : provider.SignsIn libraries env idToken nonce request) :
    idToken.claims.nonce = some nonce := by
  cases provider with
  | google =>
    obtain ⟨-, -, identity, hname, -⟩ := h
    exact hname.nonce.2
  | oidc =>
    obtain ⟨-, -, identity, hname, -⟩ := h
    exact hname.nonce.2

/-- Both callbacks check the nonce. -/
theorem checksNonce (hlibraries : libraries.Sound) (provider : Provider) :
    (provider.client libraries).ChecksNonce := by
  intro env cookies code state content request h
  obtain ⟨-, nonce, idToken, hcookie, hcontent, hsigns⟩ := signsIn_of_callback hlibraries h
  refine ⟨nonce, idToken, hcookie, hcontent, ?_⟩
  rw [nonceOf_client, hsigns.nonce_eq]

/-! ## A login that is forged in vain -/

/-- Whether a token has expired. -/
def unexpired (now : Time) (claims : Claims) : Bool := claims.exp.any fun exp => now ≤ exp

/-- Libraries that check the signature, the audience, the issuer and the expiry; the texts are
    lower case. -/
def sampleLibraries : Libraries where
  lower := id
  verifyOauth2Token now idToken audience :=
    if idToken.signed ∧ audience ∈ idToken.claims.aud ∧ unexpired now idToken.claims then
      .ok idToken.claims
    else .error .caught
  decode idToken := if idToken.signed then .ok idToken.claims else .error .caught
  validate now registry claims :=
    if claims.iss = some registry.iss ∧ registry.aud ∈ claims.aud ∧ unexpired now claims then
      .ok ()
    else .error .caught

/-- The sample libraries are sound. -/
theorem sampleLibraries_sound : sampleLibraries.Sound where
  verifyOauth2Token now idToken audience claims h := by
    simp only [sampleLibraries] at h
    split at h
    · next hvalid => exact ⟨hvalid.1, (Except.ok.inj h).symm⟩
    · cases h
  decode idToken claims h := by
    simp only [sampleLibraries] at h
    split at h
    · next hsigned => exact ⟨hsigned, (Except.ok.inj h).symm⟩
    · cases h
  validate now registry claims h := by
    simp only [sampleLibraries] at h
    split at h
    · next hvalid => exact hvalid.1
    · cases h

/-- A signed token of Google for the subject and the nonce. -/
def sampleToken (subject nonce : String) : IdToken where
  claims := {
    iss := some "https://accounts.google.com"
    aud := ["client"]
    exp := some 10
    iat := some 4
    sub := some subject
    nonce := some nonce
    emailVerified := true
    email := some (subject ++ "@corp") }
  signed := true

/-- Every user of the provider may sign in. -/
def sampleCircumstances : Circumstances where
  resolved := {
    autoProvisionEnabled := true
    usable := true
    clientId := "client"
    redirectUri := "/auth/google/callback"
    allowedDomains := [] }
  outside := { now := 5, keySetFetched := true }
  document := none
  reachable := true
  newId := 1
  newIdentityId := 1

/-- The adversary consents to a sign-in of his own and sends the browser `true`, where a sign-in
    is under way, to the callback with his code; then its own sign-in goes on. He also tries the
    code of the browser. -/
def forgedLogin : List (Label Bool Circumstances IdToken) :=
  [.startAdversary ⟨"s'", some "n'"⟩,
    .grantAdversary ⟨"s'", some "n'"⟩ "c'" (sampleToken "mallory" "n'"),
    .start true ⟨"s", some "n"⟩,
    .callback sampleCircumstances true "c'" "s'",
    .callback sampleCircumstances true "c'" "s",
    .grant true ⟨"s", some "n"⟩ "c" (sampleToken "alice" "n"),
    .callbackAdversary sampleCircumstances ⟨some "s'", some "n'"⟩ "c" "s'",
    .callbackAdversary sampleCircumstances ⟨some "s'", some "n'"⟩ "c'" "s'",
    .callback sampleCircumstances true "c" "s"]

/-- The sign-ins with Google. -/
abbrev SampleWorld : Type := World Bool Circumstances IdToken Users.Request

/-- Where and with which codes a schedule ends in a sign-in with Google, the last one first. -/
def signIns (labels : List (Label Bool Circumstances IdToken)) :
    Option (List (Option Bool × String)) :=
  (Run.exec (step (Provider.google.client sampleLibraries)) World.initial labels).map
    fun w : SampleWorld => w.accepted.map fun x => (x.party, x.code)

/-- In the sample run each browser gets its own sign-in. -/
theorem signIns_forgedLogin : signIns forgedLogin = some [(some true, "c"), (none, "c'")] := by
  decide +kernel

/-- A run signs in whom its labels say. -/
theorem exists_of_signIns {labels : List (Label Bool Circumstances IdToken)}
    {expected : List (Option Bool × String)} (h : signIns labels = some expected) :
    ∃ w : SampleWorld,
      Run (step (Provider.google.client sampleLibraries)) (fun _ _ => True) World.initial w ∧
        w.accepted.map (fun x => (x.party, x.code)) = expected := by
  obtain ⟨w, hw, rfl⟩ := Option.map_eq_some_iff.1 h
  exact ⟨w, Run.of_exec_true _ hw, rfl⟩

/-- What is accepted is one of the callbacks accepted. -/
theorem exists_accepted {w : SampleWorld} {expected : List (Option Bool × String)}
    {p : Option Bool} {c : String}
    (h : w.accepted.map (fun x => (x.party, x.code)) = expected) (hmem : (p, c) ∈ expected) :
    ∃ x ∈ w.accepted, x.party = p ∧ x.code = c := by
  rw [← h] at hmem
  obtain ⟨x, hx, heq⟩ := List.mem_map.1 hmem
  obtain ⟨hparty, hcode⟩ := Prod.mk.inj heq
  exact ⟨x, hx, hparty, hcode⟩

/-! ## Who is signed in -/

section Runs

variable {β : Type} [DecidableEq β] {provider : Provider}
  {ok : World β Circumstances IdToken Users.Request → Label β Circumstances IdToken → Prop}
  {w : World β Circumstances IdToken Users.Request}
  {x : Acceptance β Circumstances Users.Request}

/-- What a callback has accepted signs in by the token of a grant, which names the nonce of its
    request. -/
theorem signsIn_of_accepted (hlibraries : libraries.Sound)
    (h : Run (step (provider.client libraries)) ok World.initial w) (hx : x ∈ w.accepted) :
    ∃ g ∈ w.grants, g.code = x.code ∧ GrantedTo x.party w g ∧ ∃ nonce,
      g.request.nonce = some nonce ∧
        provider.SignsIn libraries x.env g.content nonce x.result := by
  obtain ⟨g, hg, hcode, hgranted, cookies, state, hcallback⟩ :=
    granted_of_nonce (checksNonce hlibraries provider) h x hx
  obtain ⟨-, nonce, idToken, -, hcontent, hsigns⟩ := signsIn_of_callback hlibraries hcallback
  obtain rfl := Option.some.inj hcontent
  have hnonce := (inv_of_run h).content g hg
  rw [nonceOf_client, hsigns.nonce_eq] at hnonce
  exact ⟨g, hg, hcode, hgranted, nonce, hnonce.symm, hsigns⟩

/-- Whatever links the adversary sends a browser to, it is signed in only with a token that
    was granted in the browser itself, to a sign-in with a nonce drawn for the browser. -/
theorem signed_in_as_consented (hlibraries : libraries.Sound)
    (h : Run (step (provider.client libraries)) ok World.initial w) (hx : x ∈ w.accepted) {b : β}
    (hparty : x.party = some b) :
    ∃ g ∈ w.grants, g.code = x.code ∧ g.party = some b ∧ ∃ nonce,
      g.request.nonce = some nonce ∧ (some b, nonce) ∈ w.secrets.drawn ∧
        provider.SignsIn libraries x.env g.content nonce x.result := by
  obtain ⟨g, hg, hcode, hgranted, nonce, hnonce, hsigns⟩ := signsIn_of_accepted hlibraries h hx
  rw [hparty] at hgranted
  obtain ⟨hown, nonce', hnonce', hdrawn⟩ := hgranted
  obtain rfl := Option.some.inj (hnonce.symm.trans hnonce')
  exact ⟨g, hg, hcode, hown, nonce, hnonce, hdrawn, hsigns⟩

/-- The browser is signed in with its own token, in spite of the forged callbacks. -/
theorem signed_in_as_consented_forgedLogin :
    ∃ w : SampleWorld,
      Run (step (Provider.google.client sampleLibraries)) (fun _ _ => True) World.initial w ∧
        ∃ x ∈ w.accepted, x.party = some true ∧ x.code = "c" ∧
          ∃ g ∈ w.grants, g.party = some true ∧ ∃ nonce,
            (some true, nonce) ∈ w.secrets.drawn ∧
              Provider.google.SignsIn sampleLibraries x.env g.content nonce x.result := by
  obtain ⟨w, hw, haccepted⟩ := exists_of_signIns signIns_forgedLogin
  obtain ⟨x, hx, hparty, hcode⟩ := exists_accepted (p := some true) (c := "c") haccepted
    (by decide)
  obtain ⟨g, hg, -, hown, nonce, -, hdrawn, hsigns⟩ :=
    signed_in_as_consented sampleLibraries_sound hw hx hparty
  exact ⟨w, hw, x, hx, hparty, hcode, g, hg, hown, nonce, hdrawn, hsigns⟩

/-- What the adversary signs in with was granted to him, or by somebody whom he had sent to
    the provider himself with a nonce of his own; and the code of a sign-in that was begun in a
    browser, even if it leaks, is accepted nowhere but in that browser. -/
theorem adversary_signed_in (hlibraries : libraries.Sound)
    (h : Run (step (provider.client libraries)) ok World.initial w) :
    (∀ x ∈ w.accepted, x.party = none → ∃ g ∈ w.grants, g.code = x.code ∧ ∃ nonce,
      g.request.nonce = some nonce ∧ (g.party = none ∨ w.secrets.Known nonce) ∧
        provider.SignsIn libraries x.env g.content nonce x.result) ∧
      ∀ g ∈ w.grants, ∀ b nonce, g.request.nonce = some nonce →
        (some b, nonce) ∈ w.secrets.drawn → ∀ x ∈ w.accepted, x.code = g.code →
          x.party = some b := by
  constructor
  · intro x hx hparty
    obtain ⟨g, hg, hcode, hgranted, nonce, hnonce, hsigns⟩ := signsIn_of_accepted hlibraries h hx
    rw [hparty] at hgranted
    refine ⟨g, hg, hcode, nonce, hnonce, hgranted.imp id ?_, hsigns⟩
    rintro ⟨nonce', hnonce', hknown⟩
    obtain rfl := Option.some.inj (hnonce.symm.trans hnonce')
    exact hknown
  · intro g hg b nonce hnonce hdrawn x hx hcode
    exact own_code_of_nonce (checksNonce hlibraries provider) h hg hnonce hdrawn hx hcode

/-- The adversary is signed in as himself. -/
theorem adversary_signed_in_forgedLogin :
    ∃ w : SampleWorld,
      Run (step (Provider.google.client sampleLibraries)) (fun _ _ => True) World.initial w ∧
        (∀ x ∈ w.accepted, x.code = "c" → x.party = some true) ∧
        ∃ x ∈ w.accepted, x.party = none ∧ x.code = "c'" ∧
          ∃ g ∈ w.grants, g.code = "c'" ∧ ∃ nonce,
            (g.party = none ∨ w.secrets.Known nonce) ∧
              Provider.google.SignsIn sampleLibraries x.env g.content nonce x.result := by
  obtain ⟨w, hw, haccepted⟩ := exists_of_signIns signIns_forgedLogin
  obtain ⟨hhis, hown⟩ := adversary_signed_in sampleLibraries_sound hw
  -- the code of the browser was granted to a request with a nonce drawn for it
  obtain ⟨y, hy, hyParty, hyCode⟩ := exists_accepted (p := some true) (c := "c") haccepted
    (by decide)
  obtain ⟨g, hg, hgCode, -, nonce, hnonce, hdrawn, -⟩ :=
    signed_in_as_consented sampleLibraries_sound hw hy hyParty
  obtain ⟨x, hx, hparty, hcode⟩ := exists_accepted (p := none) (c := "c'") haccepted
    (by decide)
  obtain ⟨g', hg', hcode', nonce', -, hgranted, hsigns⟩ := hhis x hx hparty
  refine ⟨w, hw, fun z hz hzCode => ?_, x, hx, hparty, hcode, g', hg', hcode'.trans hcode, nonce',
    hgranted, hsigns⟩
  exact hown g hg true nonce hnonce hdrawn z hz (hzCode.trans (hgCode.trans hyCode).symm)

end Runs

end MiniGrc.OidcLogin
