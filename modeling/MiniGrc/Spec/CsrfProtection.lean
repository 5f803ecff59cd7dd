import MiniGrc.App.MutatingRoutes
import MiniGrc.ForStd.Diagnostics

/-!
# Requests without the CSRF token

What happens to a request that does not carry a value equal to its CSRF cookie, on every route
that changes something.

## Key results

- `solve_refuses`: such a request does not get past a dependency that checks the token
- `otherRoutes_verifyCsrf`: every route but those of the trust center has such a dependency
- `csrf_protects_iff`: the requests that are refused and change nothing
-/

namespace MiniGrc.Routes

open Except
open Users (User)

variable {τ : Type} {env : Environment} {request : Request}

/-! ## The property -/

/-- The request carries, in its form or as a header, a value equal to its CSRF cookie, which is
    not empty. -/
def Request.CarriesToken (request : Request) : Prop :=
  ∃ token, request.cookie csrfCookieName = some token ∧ token ≠ "" ∧
    ((∃ fields, request.form = some fields ∧ ("csrf_token", .text token) ∈ fields) ∨
      ("x-csrf-token", token) ∈ request.headers)

/-- The response refuses the request. -/
def Response.Refuses : Response → Prop
  | .redirectToLogin _ | .httpError _ _ | .unprocessable | .serverError => True
  | .redirectWithFlash _ _ | .served _ => False

/-- The request is refused and nothing changes. -/
def Route.Protects (env : Environment) (route : Route τ) (request : Request) (db : Database τ) :
    Prop :=
  (route.serve env request db).1.Refuses ∧ (route.serve env request db).2 = db

/-! ## The condition -/

/-- An active admin is signed in by the session cookie. -/
structure IsAdminSession (env : Environment) (request : Request) (db : Database τ) : Prop where
  exists_session : ∃ rawToken userSession user,
    request.cookie sessionCookieName = some rawToken ∧ rawToken ≠ "" ∧
    db.sessionOf env rawToken = some userSession ∧ userSession.revokedAt = none ∧
    ¬ userSession.expiresAt < env.now ∧ db.users[userSession.userId]? = some user ∧
    user.status = .active ∧ user.role = .admin

/-- The section of the path exists. -/
def HasSection (request : Request) (t : Tables τ) : Prop :=
  ∃ found, t.section (request.pathParam "section_id") = .ok found

/-- A text parameter that is given or has a default, and fits into its column. -/
def TakesText (env : Environment) (request : Request) (name : String) (default : Option String)
    (length : Option Nat) : Prop :=
  ∃ text, request.formText name default = .ok text ∧ env.storable length text

/-- The form of `update_settings` is taken. -/
structure TakesSettings (env : Environment) (request : Request) : Prop where
  form : request.form.isSome
  enabled : ∃ flag, request.formBool env "enabled" = .ok flag
  title : TakesText env request "title" none (some 255)
  intro : TakesText env request "intro_markdown" (some "") none
  contact : TakesText env request "contact_email" (some "") (some 255)
  url : TakesText env request "support_url" (some "") (some 2048)

/-- A parameter that names a row, or none. -/
def TakesLink (request : Request) (name : String) (ids : List Id) : Prop :=
  ∃ text id, request.formText name (some "") = .ok text ∧ linkedId ids text = .ok id

/-- The form of `update_section` is taken. -/
structure TakesSection (env : Environment) (request : Request) (t : Tables τ) : Prop where
  form : request.form.isSome
  draft : TakesText env request "draft_body_markdown" (some "") none
  review : ∃ text, request.formText "review_date" (some "") = .ok text
  expiry : ∃ text, request.formText "expiry_date" (some "") = .ok text
  framework : TakesLink request "linked_framework_id" t.frameworks
  policy : TakesLink request "linked_policy_id" t.policies
  found : HasSection request t

/-- The path is one of the trust center's, and the request has what the route asks for. -/
def Takes (env : Environment) (request : Request) (t : Tables τ) (path : String) : Prop :=
  path = "/trust-center/admin/settings" ∧ TakesSettings env request ∨
  path = "/trust-center/admin/sections/{section_id}" ∧ TakesSection env request t ∨
  (path = "/trust-center/admin/sections/{section_id}/publish" ∨
    path = "/trust-center/admin/sections/{section_id}/unpublish") ∧ HasSection request t

/-! ## Dependencies -/

/-- The dependency checks the token. -/
def Dependency.checksCsrf : Dependency → Bool
  | .verifyCsrf | .verifyCsrfHeader => true
  | _ => false

/-- One of the dependencies of the route checks the token. -/
def Route.verifiesCsrf (route : Route τ) : Bool := route.dependencies.any Dependency.checksCsrf

/-- Values that match are equal and not empty. -/
theorem eq_of_refuseUnlessMatch {cookie submitted : Option String} {u : Unit}
    (h : refuseUnlessMatch cookie submitted = .ok u) :
    ∃ token, cookie = some token ∧ submitted = some token ∧ token ≠ "" := by
  obtain ⟨matched, hmatched, h⟩ := bind_eq_ok.1 h
  -- The tokens match only where both are given and equal.
  cases hm : matched with
  | false =>
    rw [hm] at h
    cases h
  | true =>
    subst hm
    unfold csrfTokensMatch at hmatched
    split at hmatched
    · next token token' =>
      split at hmatched
      · cases hmatched
      · next hempty =>
        split at hmatched
        · obtain rfl : token = token' := by simpa using hmatched
          exact ⟨token, rfl, rfl, fun h => hempty (.inl h)⟩
        · cases hmatched
    · cases hmatched

/-- A field of the form is one of its entries. -/
theorem mem_of_field {name : String} {value : FormValue} (h : request.field name = some value) :
    ∃ fields, request.form = some fields ∧ (name, value) ∈ fields := by
  obtain ⟨entry, hfind, rfl⟩ := Option.map_eq_some_iff.1 h
  obtain rfl : entry.1 = name := by simpa using List.find?_some hfind
  have hmem := List.mem_reverse.1 (List.mem_of_find?_eq_some hfind)
  cases hform : request.form with
  | none => simp [hform] at hmem
  | some fields =>
    rw [hform] at hmem
    exact ⟨fields, rfl, hmem⟩

/-- A header of the request is one of its entries. -/
theorem mem_of_header {name value : String} (h : request.header name = some value) :
    (name, value) ∈ request.headers := by
  obtain ⟨entry, hfind, rfl⟩ := Option.map_eq_some_iff.1 h
  obtain rfl : entry.1 = name := by simpa using List.find?_some hfind
  exact List.mem_of_find?_eq_some hfind

/-- A dependency passes where its function returns. -/
theorem Solved.ofExcept_eq_passed {α : Type} {x : Except Response α}
    (h : Solved.ofExcept x = .passed) : ∃ a, x = .ok a := by
  cases x with
  | ok a => exact ⟨a, rfl⟩
  | error response => cases h

/-- A dependency that checks the token passes only requests that carry it. -/
theorem carriesToken_of_solve {db : Database τ} {dependency : Dependency}
    (hcsrf : dependency.checksCsrf) (h : dependency.solve env request db = .passed) :
    request.CarriesToken := by
  -- The form's token is read from the body, the header's from the header.
  cases dependency with
  | verifyCsrf =>
    simp only [Dependency.solve] at h
    split at h
    · next csrfToken hfield =>
      split at h
      · cases h
      · obtain ⟨u, hu⟩ := Solved.ofExcept_eq_passed h
        obtain ⟨token, hcookie, hsubmitted, htoken⟩ := eq_of_refuseUnlessMatch hu
        obtain rfl : csrfToken = token := Option.some.inj hsubmitted
        exact ⟨csrfToken, hcookie, htoken, .inl (mem_of_field hfield)⟩
    · cases h
  | verifyCsrfHeader =>
    obtain ⟨u, hu⟩ := Solved.ofExcept_eq_passed h
    obtain ⟨token, hcookie, hheader, htoken⟩ := eq_of_refuseUnlessMatch hu
    exact ⟨token, hcookie, htoken, .inr (mem_of_header hheader)⟩
  | requireLogin | requireAdmin | requireWriteAccess => cases hcsrf

/-- What fails refuses the request. -/
abbrev Refusing {α : Type} (x : Except Response α) : Prop :=
  Ends Response.Refuses (fun _ => True) x

/-- A login that is missing is refused. -/
theorem refusing_requireLogin {db : Database τ} : Refusing (requireLogin env request db) := by
  unfold requireLogin Users.requireActive
  repeat' split
  all_goals trivial

/-- Whoever is no administrator is refused. -/
theorem refusing_requireAdmin {db : Database τ} : Refusing (requireAdmin env request db) := by
  refine refusing_requireLogin.bind fun user _ => ?_
  dsimp only
  split <;> trivial

/-- Whoever may only read is refused. -/
theorem refusing_requireWriteAccess {db : Database τ} :
    Refusing (requireWriteAccess env request db) := by
  refine refusing_requireLogin.bind fun user _ => ?_
  dsimp only
  split <;> trivial

/-- Tokens that do not match are refused. -/
theorem refusing_refuseUnlessMatch {cookie submitted : Option String} :
    Refusing (refuseUnlessMatch cookie submitted) := by
  have hmatch : Refusing (csrfTokensMatch cookie submitted) := by
    unfold csrfTokensMatch
    repeat' split
    all_goals trivial
  refine hmatch.bind fun matched _ => ?_
  cases matched <;> trivial

/-- Whatever a dependency raises refuses the request. -/
theorem refuses_of_solve {db : Database τ} {dependency : Dependency} {response : Response}
    (h : dependency.solve env request db = .raised response) : response.Refuses := by
  have hraised : ∀ {α : Type} {x : Except Response α}, Refusing x →
      Solved.ofExcept x = .raised response → response.Refuses := by
    intro α x hx hsolved
    cases x with
    | ok a => cases hsolved
    | error response' =>
      cases hsolved
      exact hx
  -- Every dependency raises through one of the refusing functions.
  cases dependency with
  | requireLogin => exact hraised refusing_requireLogin h
  | requireAdmin => exact hraised refusing_requireAdmin h
  | requireWriteAccess => exact hraised refusing_requireWriteAccess h
  | verifyCsrfHeader => exact hraised refusing_refuseUnlessMatch h
  | verifyCsrf =>
    simp only [Dependency.solve] at h
    split at h
    · split at h
      · cases h
      · exact hraised refusing_refuseUnlessMatch h
    · cases h

/-- A request that does not carry the token does not get past its check. -/
theorem solve_refuses {db : Database τ} (htoken : ¬ request.CarriesToken)
    {dependencies : List Dependency} {invalid : Bool}
    (h : invalid ∨ dependencies.any Dependency.checksCsrf) :
    ∃ response, solveDependencies env request db invalid dependencies = .error response ∧
      response.Refuses := by
  -- Over the dependencies: one that checks the token raises, if none before it has.
  induction dependencies generalizing invalid with
  | nil =>
    obtain rfl : invalid = true := by simpa using h
    exact ⟨.unprocessable, rfl, trivial⟩
  | cons dependency rest ih =>
    rw [solveDependencies]
    cases hsolve : dependency.solve env request db with
    | passed =>
      refine ih ?_
      rw [List.any_cons, Bool.or_eq_true] at h
      rcases h with h | h | h
      · exact .inl h
      · exact absurd (carriesToken_of_solve h hsolve) htoken
      · exact .inr h
    | invalid => exact ih (.inl rfl)
    | raised response => exact ⟨response, rfl, refuses_of_solve hsolve⟩

/-- Every other route checks the token. -/
theorem otherRoutes_verifyCsrf (handlers : String → Handler (Tables τ)) :
    (otherRoutes handlers).all Route.verifiesCsrf = true := rfl

/-- A route that checks the token protects from the requests that do not carry it. -/
theorem protects_of_verifiesCsrf {route : Route τ} {db : Database τ} (h : route.verifiesCsrf)
    (htoken : ¬ request.CarriesToken) : route.Protects env request db := by
  unfold Route.Protects Route.serve
  split
  · refine ⟨?_, rfl⟩
    dsimp only
    split <;> trivial
  · have hsolve : ∃ response, solveDependencies env request db false route.dependencies =
        .error response ∧ response.Refuses := solve_refuses htoken (.inr h)
    obtain ⟨response, hsolve, hrefuses⟩ := hsolve
    rw [hsolve]
    exact ⟨hrefuses, rfl⟩

/-! ## The trust center -/

/-- Whom `require_login` lets pass. -/
theorem requireLogin_eq_ok {db : Database τ} {user : Id × User} :
    requireLogin env request db = .ok user ↔ ∃ rawToken userSession,
      request.cookie sessionCookieName = some rawToken ∧ rawToken ≠ "" ∧
      db.sessionOf env rawToken = some userSession ∧ userSession.revokedAt = none ∧
      ¬ userSession.expiresAt < env.now ∧ db.users[userSession.userId]? = some user.2 ∧
      user.2.status = .active ∧ user.1 = userSession.userId := by
  constructor
  · intro h
    unfold requireLogin Users.requireActive at h
    split at h
    · cases h
    next rawToken hcookie =>
    split at h
    · cases h
    next htoken =>
    split at h
    · cases h
    next userSession hsession =>
    split at h
    · cases h
    next hrevoked =>
    split at h
    · cases h
    next hexpired =>
    split at h
    · cases h
    next row hrow =>
    split at h
    case h_2 => cases h
    case h_3 => cases h
    next hactive =>
    cases h
    exact ⟨rawToken, userSession, hcookie, htoken, hsession, by simpa using hrevoked, hexpired,
      hrow, hactive, rfl⟩
  · rintro ⟨rawToken, userSession, hcookie, htoken, hsession, hrevoked, hexpired, hrow, hactive,
      hid⟩
    simp only [requireLogin, Users.requireActive, hcookie, htoken, hsession, hrevoked, hexpired,
      hrow, hactive, if_false, Option.isSome_none, Bool.false_eq_true]
    rw [← hid]

/-- `require_admin` lets the admins among the signed-in users pass. -/
theorem requireAdmin_eq_ok {db : Database τ} {user : Id × User} :
    requireAdmin env request db = .ok user ↔
      requireLogin env request db = .ok user ∧ user.2.role = .admin :=
  checked_eq_ok (p := fun user : Id × User => user.2.role = .admin)

/-- Whom `require_admin` lets pass. -/
theorem requireAdmin_iff {db : Database τ} :
    (∃ user, requireAdmin env request db = .ok user) ↔ IsAdminSession env request db := by
  constructor
  · rintro ⟨user, huser⟩
    obtain ⟨hlogin, hadmin⟩ := requireAdmin_eq_ok.1 huser
    obtain ⟨rawToken, userSession, hcookie, htoken, hsession, hrevoked, hexpired, hrow, hactive,
      -⟩ := requireLogin_eq_ok.1 hlogin
    exact ⟨rawToken, userSession, user.2, hcookie, htoken, hsession, hrevoked, hexpired, hrow,
      hactive, hadmin⟩
  · rintro ⟨rawToken, userSession, user, hcookie, htoken, hsession, hrevoked, hexpired, hrow,
      hactive, hadmin⟩
    exact ⟨(userSession.userId, user), requireAdmin_eq_ok.2 ⟨requireLogin_eq_ok.2 ⟨rawToken,
      userSession, hcookie, htoken, hsession, hrevoked, hexpired, hrow, hactive, rfl⟩, hadmin⟩⟩

/-- A path operation that may raise is refused without a change exactly if it raises. -/
theorem committing_protects_iff {db : Database τ} {x : Except Response (Response × Database τ)}
    (h : Ends Response.Refuses (fun r => ¬ r.1.Refuses) x) :
    ((committing db x).1.Refuses ∧ (committing db x).2 = db) ↔ ¬ ∃ r, x = .ok r := by
  cases x with
  | ok r =>
    constructor
    · exact fun hr => absurd hr.1 h
    · exact fun hr => absurd ⟨r, rfl⟩ hr
  | error response =>
    constructor
    · rintro - ⟨r, hr⟩
      cases hr
    · exact fun _ => ⟨h, rfl⟩

/-- A route of the trust center refuses a request without a change unless the body can be read,
    an admin is signed in and the path operation does not raise. -/
theorem protects_under_iff {route : Route τ} {base : String} {db : Database τ}
    {x : Except Response (Response × Database τ)} (hdeps : route.dependencies = [.requireAdmin])
    (hhandler : route.handler env request db = committing db x)
    (hx : Ends Response.Refuses (fun r => ¬ r.1.Refuses) x) :
    (route.under base [.requireAdmin]).Protects env request db ↔
      ¬ (route.bodyReadable request ∧ IsAdminSession env request db ∧ ∃ r, x = .ok r) := by
  have hreadable : (route.under base [.requireAdmin]).bodyReadable request =
    route.bodyReadable request := rfl
  unfold Route.Protects Route.serve
  rw [hreadable]
  -- A body that cannot be read is answered before any dependency.
  split
  · next hbody =>
    refine iff_of_true ⟨?_, rfl⟩ fun h => by simp [hbody] at h
    dsimp only
    split <;> trivial
  · next hbody =>
    rw [Bool.not_eq_false] at hbody
    have hadmin : IsAdminSession env request db ↔
      ∃ user, requireAdmin env request db = .ok user := requireAdmin_iff.symm
    have hunder : (route.under base [.requireAdmin]).dependencies =
        [.requireAdmin, .requireAdmin] := by
      rw [Route.under, hdeps]
      rfl
    rw [hunder, hadmin]
    have hrefusing : Refusing (requireAdmin env request db) := refusing_requireAdmin
    cases huser : requireAdmin env request db with
    | error response =>
      rw [huser] at hrefusing
      simp only [solveDependencies, Dependency.solve, huser, Solved.ofExcept]
      refine iff_of_true ⟨hrefusing, trivial⟩ ?_
      rintro ⟨-, ⟨user, huser'⟩, -⟩
      cases huser'
    | ok user =>
      simp only [solveDependencies, Dependency.solve, huser, Solved.ofExcept]
      have hunder' : (route.under base [.requireAdmin]).handler = route.handler := rfl
      simp only [hunder', hhandler, hbody, Except.ok.injEq, exists_eq', true_and,
        Bool.false_eq_true, if_false]
      exact committing_protects_iff hx

/-- A form that lacks a field is refused. -/
theorem refusing_formText {name : String} {default : Option String} :
    Refusing (request.formText name default) := by
  unfold Request.formText
  cases default <;> repeat' split
  all_goals trivial

/-- A form that lacks a field is refused. -/
theorem refusing_formBool {name : String} : Refusing (request.formBool env name) := by
  unfold Request.formBool
  repeat' split
  all_goals trivial

/-- A section that is missing is refused. -/
theorem refusing_section {t : Tables τ} {sectionId : String} : Refusing (t.section sectionId) := by
  unfold Tables.section
  split <;> trivial

/-- A link that leads nowhere is refused. -/
theorem refusing_linkedId {ids : List Id} {text : String} : Refusing (linkedId ids text) := by
  unfold linkedId
  repeat' split
  all_goals trivial

section TrustCenter

variable {db : Database (Tables τ)}

/-- What the settings route takes. -/
theorem takes_settings_iff {t : Tables τ} :
    Takes env request t "/trust-center/admin/settings" ↔ TakesSettings env request := by
  simp [Takes]

/-- What the section route takes. -/
theorem takes_section_iff {t : Tables τ} :
    Takes env request t "/trust-center/admin/sections/{section_id}" ↔
      TakesSection env request t := by
  simp [Takes]

/-- What the publishing route takes. -/
theorem takes_publish_iff {t : Tables τ} :
    Takes env request t "/trust-center/admin/sections/{section_id}/publish" ↔
      HasSection request t := by
  simp [Takes]

/-- What the unpublishing route takes. -/
theorem takes_unpublish_iff {t : Tables τ} :
    Takes env request t "/trust-center/admin/sections/{section_id}/unpublish" ↔
      HasSection request t := by
  simp [Takes]

/-- The settings route lets a forged request through exactly in an administrator's session, with
    settings it takes. -/
theorem settingsRoute_protects_iff :
    (settingsRoute.under "/trust-center/admin" [.requireAdmin]).Protects env request db ↔
      ¬ (IsAdminSession env request db ∧ TakesSettings env request) := by
  refine (protects_under_iff rfl rfl ?_).trans (not_congr ?_)
  · refine refusing_formBool.bind fun enabled _ => ?_
    refine refusing_formText.bind fun title _ => ?_
    refine refusing_formText.bind fun intro _ => ?_
    refine refusing_formText.bind fun contact _ => ?_
    refine refusing_formText.bind fun url _ => ?_
    refine refusing_requireAdmin.bind fun user _ => ?_
    dsimp only
    split
    · trivial
    · exact not_false
  · constructor
    · rintro ⟨hform, hadmin, r, h⟩
      obtain ⟨flag, hflag, h⟩ := bind_eq_ok.1 h
      obtain ⟨title, htitle, h⟩ := bind_eq_ok.1 h
      obtain ⟨intro, hintro, h⟩ := bind_eq_ok.1 h
      obtain ⟨contact, hcontact, h⟩ := bind_eq_ok.1 h
      obtain ⟨url, hurl, h⟩ := bind_eq_ok.1 h
      obtain ⟨user, -, h⟩ := bind_eq_ok.1 h
      dsimp only at h
      split at h
      · cases h
      · next hstorable =>
        simp only [Bool.not_eq_true', Bool.not_eq_false, Bool.and_eq_true] at hstorable
        obtain ⟨⟨⟨htitle', hintro'⟩, hcontact'⟩, hurl'⟩ := hstorable
        exact ⟨hadmin, hform, ⟨flag, hflag⟩, ⟨title, htitle, htitle'⟩, ⟨intro, hintro, hintro'⟩,
          ⟨contact, hcontact, hcontact'⟩, ⟨url, hurl, hurl'⟩⟩
    · rintro ⟨hadmin, hform, ⟨flag, hflag⟩, ⟨title, htitle, htitle'⟩, ⟨intro, hintro, hintro'⟩,
        ⟨contact, hcontact, hcontact'⟩, ⟨url, hurl, hurl'⟩⟩
      obtain ⟨user, huser⟩ := requireAdmin_iff.2 hadmin
      refine ⟨hform, hadmin, ?_⟩
      rw [hflag, htitle, hintro, hcontact, hurl, huser]
      simp [htitle', hintro', hcontact', hurl', bind, Except.bind, pure, Except.pure]

/-- The section route lets a forged request through exactly in an administrator's session, with a
    section it takes. -/
theorem sectionRoute_protects_iff :
    (sectionRoute.under "/trust-center/admin" [.requireAdmin]).Protects env request db ↔
      ¬ (IsAdminSession env request db ∧ TakesSection env request db.tables) := by
  refine (protects_under_iff rfl rfl ?_).trans (not_congr ?_)
  · refine refusing_formText.bind fun draft _ => ?_
    refine refusing_formText.bind fun review _ => ?_
    refine refusing_formText.bind fun expiry _ => ?_
    refine refusing_formText.bind fun framework _ => ?_
    refine refusing_formText.bind fun policy _ => ?_
    refine refusing_requireAdmin.bind fun user _ => ?_
    refine refusing_section.bind fun found _ => ?_
    refine refusing_linkedId.bind fun frameworkId _ => ?_
    refine refusing_linkedId.bind fun policyId _ => ?_
    dsimp only
    split
    · trivial
    · exact not_false
  · constructor
    · rintro ⟨hform, hadmin, r, h⟩
      obtain ⟨draft, hdraft, h⟩ := bind_eq_ok.1 h
      obtain ⟨review, hreview, h⟩ := bind_eq_ok.1 h
      obtain ⟨expiry, hexpiry, h⟩ := bind_eq_ok.1 h
      obtain ⟨framework, hframework, h⟩ := bind_eq_ok.1 h
      obtain ⟨policy, hpolicy, h⟩ := bind_eq_ok.1 h
      obtain ⟨user, -, h⟩ := bind_eq_ok.1 h
      obtain ⟨found, hfound, h⟩ := bind_eq_ok.1 h
      obtain ⟨frameworkId, hframeworkId, h⟩ := bind_eq_ok.1 h
      obtain ⟨policyId, hpolicyId, h⟩ := bind_eq_ok.1 h
      dsimp only at h
      split at h
      · cases h
      · next hstorable =>
        simp only [Bool.not_eq_true', Bool.not_eq_false] at hstorable
        exact ⟨hadmin, hform, ⟨draft, hdraft, hstorable⟩, ⟨review, hreview⟩, ⟨expiry, hexpiry⟩,
          ⟨framework, frameworkId, hframework, hframeworkId⟩,
          ⟨policy, policyId, hpolicy, hpolicyId⟩, ⟨found, hfound⟩⟩
    · rintro ⟨hadmin, hform, ⟨draft, hdraft, hstorable⟩, ⟨review, hreview⟩, ⟨expiry, hexpiry⟩,
        ⟨framework, frameworkId, hframework, hframeworkId⟩,
        ⟨policy, policyId, hpolicy, hpolicyId⟩, ⟨found, hfound⟩⟩
      obtain ⟨user, huser⟩ := requireAdmin_iff.2 hadmin
      refine ⟨hform, hadmin, ?_⟩
      rw [hdraft, hreview, hexpiry, hframework, hpolicy, huser, hfound]
      simp [hframeworkId, hpolicyId, hstorable, bind, Except.bind, pure, Except.pure]

/-- Publishing and unpublishing ask for nothing but the section. -/
theorem protects_iff_of_section {route : Route (Tables τ)} {base : String}
    {result : Id × User → Id × Section → Response × Database (Tables τ)}
    (hdeps : route.dependencies = [.requireAdmin]) (hbody : route.body = .none)
    (hhandler : route.handler env request db = committing db (do
      let user ← requireAdmin env request db
      let found ← db.tables.section (request.pathParam "section_id")
      return result user found))
    (hresult : ∀ user found, ¬ (result user found).1.Refuses) :
    (route.under base [.requireAdmin]).Protects env request db ↔
      ¬ (IsAdminSession env request db ∧ HasSection request db.tables) := by
  refine (protects_under_iff hdeps hhandler ?_).trans (not_congr ?_)
  · refine refusing_requireAdmin.bind fun user _ => ?_
    exact refusing_section.bind fun found _ => hresult user found
  · have hreadable : route.bodyReadable request := by
      rw [Route.bodyReadable, hbody]
    constructor
    · rintro ⟨-, hadmin, r, h⟩
      obtain ⟨user, -, h⟩ := bind_eq_ok.1 h
      obtain ⟨found, hfound, h⟩ := bind_eq_ok.1 h
      exact ⟨hadmin, found, hfound⟩
    · rintro ⟨hadmin, found, hfound⟩
      obtain ⟨user, huser⟩ := requireAdmin_iff.2 hadmin
      refine ⟨hreadable, hadmin, result user found, ?_⟩
      rw [huser, hfound]
      rfl

/-- The publishing route lets a forged request through exactly in an administrator's session, for a
    section that is there. -/
theorem publishRoute_protects_iff :
    (publishRoute.under "/trust-center/admin" [.requireAdmin]).Protects env request db ↔
      ¬ (IsAdminSession env request db ∧ HasSection request db.tables) :=
  protects_iff_of_section rfl rfl rfl fun _ _ => not_false

/-- The unpublishing route lets a forged request through exactly in an administrator's session, for
    a section that is there. -/
theorem unpublishRoute_protects_iff :
    (unpublishRoute.under "/trust-center/admin" [.requireAdmin]).Protects env request db ↔
      ¬ (IsAdminSession env request db ∧ HasSection request db.tables) :=
  protects_iff_of_section rfl rfl rfl fun _ _ => not_false

/-- The routes of the trust center refuse only what the user, or the request itself, lacks. -/
theorem trustCenterRoutes_protects_iff {route : Route (Tables τ)}
    (h : route ∈ trustCenterRoutes) : route.Protects env request db ↔
      ¬ (IsAdminSession env request db ∧ Takes env request db.tables route.path) := by
  simp only [trustCenterRoutes, apiRouter, List.map_cons, List.map_nil, List.mem_cons,
    List.not_mem_nil, or_false] at h
  rcases h with rfl | rfl | rfl | rfl
  · rw [settingsRoute_protects_iff, ← takes_settings_iff]
    exact Iff.rfl
  · rw [sectionRoute_protects_iff, ← takes_section_iff]
    exact Iff.rfl
  · rw [publishRoute_protects_iff, ← takes_publish_iff]
    exact Iff.rfl
  · rw [unpublishRoute_protects_iff, ← takes_unpublish_iff]
    exact Iff.rfl

end TrustCenter

/-- The other paths are none of the trust center's. -/
theorem otherRoutes_path (handlers : String → Handler (Tables τ)) :
    (otherRoutes handlers).all (fun route =>
      !((trustCenterRoutes (τ := τ)).map Route.path).contains route.path) = true := rfl

/-- None of the other routes takes a request without a token. -/
theorem not_takes_of_mem_otherRoutes {handlers : String → Handler (Tables τ)}
    {route : Route (Tables τ)} (h : route ∈ otherRoutes handlers) {t : Tables τ} :
    ¬ Takes env request t route.path := by
  have hpath := List.all_eq_true.1 (otherRoutes_path handlers) route h
  have hpaths : (trustCenterRoutes (τ := τ)).map Route.path = [
    "/trust-center/admin/settings", "/trust-center/admin/sections/{section_id}",
    "/trust-center/admin/sections/{section_id}/publish",
    "/trust-center/admin/sections/{section_id}/unpublish"] := rfl
  simp only [hpaths, Bool.not_eq_true', List.contains_eq_mem, decide_eq_false_iff_not,
    List.mem_cons, List.not_mem_nil, or_false, not_or] at hpath
  rintro (⟨hsettings, -⟩ | ⟨hsection, -⟩ | ⟨hpublish | hunpublish, -⟩)
  · exact hpath.1 hsettings
  · exact hpath.2.1 hsection
  · exact hpath.2.2.1 hpublish
  · exact hpath.2.2.2 hunpublish

/-! ## A forged request -/

/-- An environment in which every text is its own hash and fits everywhere. -/
def forgedEnvironment : Environment where
  now := 100
  newId := 9
  hashSessionToken := id
  parseBool _ := none
  parseDate _ := none
  storable _ _ := true

/-- An admin with a session, and a section in draft. -/
def forgedDatabase : Database (Tables Unit) where
  users := (∅ : Table User).insert 1 { email := "admin@example.com", role := .admin }
  userSessions := (∅ : Table UserSession).insert 2 {
    userId := 1, tokenHash := "s3cr3t", createdAt := 0, expiresAt := 200 }
  tables := {
    settings := ∅
    sections := (∅ : Table Section).insert 7 { title := "Encryption", updatedAt := 0 }
    frameworks := []
    policies := []
    auditEvents := []
    others := () }

/-- What a page of another site makes the browser send: the cookie of the session, no token. -/
def forgedRequest : Request where
  cookies := [("session", "s3cr3t")]
  headers := []
  pathParams := [("section_id", "7")]
  form := none
  isJson := false
  body := []

/-- The route that publishes a section. -/
def forgedRoute : Route (Tables Unit) := publishRoute.under "/trust-center/admin" [.requireAdmin]

/-- The forged request meets a route of the application. -/
theorem forgedRoute_mem (handlers : String → Handler (Tables Unit)) :
    forgedRoute ∈ routes handlers :=
  List.mem_append_left _ (by simp [trustCenterRoutes, apiRouter, forgedRoute])

/-- The forged request carries no token. -/
theorem forgedRequest_not_carriesToken : ¬ forgedRequest.CarriesToken := by
  rintro ⟨token, hcookie, -⟩
  have hnone : forgedRequest.cookie csrfCookieName = none := by decide
  cases hnone.symm.trans hcookie

/-! ## All routes -/

/-- A request to a route of the application that does not carry the token is refused without a
    change, unless the route is one of the trust center's, an active admin is signed in, and the
    request has what the route asks for. -/
theorem csrf_protects_iff {handlers : String → Handler (Tables τ)} {route : Route (Tables τ)}
    (hroute : route ∈ routes handlers) (htoken : ¬ request.CarriesToken)
    (db : Database (Tables τ)) :
    route.Protects env request db ↔
      ¬ (IsAdminSession env request db ∧ Takes env request db.tables route.path) := by
  rcases List.mem_append.1 hroute with htrust | hother
  · exact trustCenterRoutes_protects_iff htrust
  · have hcsrf := List.all_eq_true.1 (otherRoutes_verifyCsrf handlers) route hother
    exact iff_of_true (protects_of_verifiesCsrf hcsrf htoken) fun h =>
      not_takes_of_mem_otherRoutes hother h.2

/-- The forged request is one that the theorem speaks of. -/
theorem csrf_protects_iff_forged : ¬ forgedRequest.CarriesToken ∧
    (forgedRoute.Protects forgedEnvironment forgedRequest forgedDatabase ↔
      ¬ (IsAdminSession forgedEnvironment forgedRequest forgedDatabase ∧
        Takes forgedEnvironment forgedRequest forgedDatabase.tables forgedRoute.path)) :=
  ⟨forgedRequest_not_carriesToken,
    csrf_protects_iff (forgedRoute_mem fun _ _ _ db => (.served 200, db))
      forgedRequest_not_carriesToken forgedDatabase⟩

/-- The forged request publishes the section. -/
theorem csrf_forgedPublish :
    ¬ ∀ (handlers : String → Handler (Tables Unit)) (env : Environment)
        (route : Route (Tables Unit)) (request : Request) (db : Database (Tables Unit)),
      route ∈ routes handlers → ¬ request.CarriesToken → route.Protects env request db := by
  intro h
  have hprotects := h (fun _ _ _ db => (.served 200, db)) forgedEnvironment forgedRoute
    forgedRequest forgedDatabase (forgedRoute_mem _) forgedRequest_not_carriesToken
  have hserved : (forgedRoute.serve forgedEnvironment forgedRequest forgedDatabase).1 =
      .redirectWithFlash "/trust-center/admin/sections/7" "Section published." := by
    decide
  have hrefuses := hprotects.1
  rw [hserved] at hrefuses
  exact hrefuses

end MiniGrc.Routes
