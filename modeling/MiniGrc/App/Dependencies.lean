import MiniGrc.App.Dates
import MiniGrc.App.Users

/-!
# The dependencies of the routes

`app/deps.py` with what it uses of `app/security.py`, and how a request goes through the
dependencies that its route declares: in their order, the router's first. A dependency that
raises ends the request; one that lacks a field of the form only counts as an error, and the
others are still asked. `get_db` commits what the path operation leaves unless it raises.

The database is the users, their sessions and whatever else there is.
-/

namespace MiniGrc.Routes

open Events
open Users (User UserRole UserStatus)

/-! ## Requests and responses -/

/-- A field of a form. -/
inductive FormValue
  | text (value : String)
  /-- an uploaded file -/
  | file (filename : String) (content : List UInt8)

/-- A request to a route, as the framework hands it on. Names of headers are in lower case; a
    name may occur several times. -/
structure Request where
  cookies : List (String × String)
  headers : List (String × String)
  pathParams : List (String × String)
  /-- the fields of the body as a form, unless it is none -/
  form : Option (List (String × FormValue))
  /-- the body is JSON -/
  isJson : Bool
  body : List UInt8

/-- `request.cookies.get(name)`: the last of the name. -/
def Request.cookie (request : Request) (name : String) : Option String :=
  (request.cookies.reverse.find? fun entry => entry.1 = name).map Prod.snd

/-- `request.headers.get(name)`: the first of the name. -/
def Request.header (request : Request) (name : String) : Option String :=
  (request.headers.find? fun entry => entry.1 = name).map Prod.snd

/-- A field of the form: the last of the name. -/
def Request.field (request : Request) (name : String) : Option FormValue :=
  ((request.form.getD []).reverse.find? fun entry => entry.1 = name).map Prod.snd

/-- A response. -/
inductive Response
  /-- `_redirect_to_login` -/
  | redirectToLogin (message : Option String)
  /-- an `HTTPException` -/
  | httpError (statusCode : Nat) (detail : String)
  /-- parameters that are missing or invalid, 422 -/
  | unprocessable
  /-- an exception that nothing handles, 500 -/
  | serverError
  /-- `redirect_with_flash` -/
  | redirectWithFlash (url message : String)
  /-- anything else that a path operation returns -/
  | served (statusCode : Nat)
  deriving DecidableEq, Repr

/-! ## `app/security.py` -/

/-- `SESSION_COOKIE_NAME`. -/
def sessionCookieName : String := "session"

/-- `CSRF_COOKIE_NAME`. -/
def csrfCookieName : String := "csrf_token"

/-- The text is ASCII, as `secrets.compare_digest` wants it. -/
def isAscii (text : String) : Bool := text.toList.all fun c => c.toNat < 128

/-- `csrf_tokens_match`. -/
def csrfTokensMatch (cookieValue submittedValue : Option String) : Except Response Bool :=
  match cookieValue, submittedValue with
  | some cookie, some submitted =>
    if cookie = "" ∨ submitted = "" then .ok false
    else if isAscii cookie && isAscii submitted then .ok (cookie == submitted)
    else .error .serverError
  | _, _ => .ok false

/-! ## `app/deps.py` -/

/-- A row of `user_sessions`; the key is its `id`. -/
structure UserSession where
  userId : Id
  tokenHash : String
  createdAt : Time
  expiresAt : Time
  revokedAt : Option Time := none

/-- The database; `τ` is what the path operations read and write of the other tables. -/
structure Database (τ : Type) where
  users : Table User
  userSessions : Table UserSession
  tables : τ

/-- What is outside: the clock, `new_id()`, `hash_session_token`, the parsers of the framework
    and of `_parse_date`, and whether the database takes a text in a column of a length. -/
structure Environment where
  now : Time
  newId : Id
  hashSessionToken : String → String
  parseBool : String → Option Bool
  parseDate : String → Option Date
  storable : Option Nat → String → Bool

variable {τ : Type} (env : Environment)

/-- The session of a raw token. -/
def Database.sessionOf (db : Database τ) (rawToken : String) : Option UserSession :=
  (db.userSessions.toList.find? fun entry =>
    entry.2.tokenHash = env.hashSessionToken rawToken).map Prod.snd

/-- `require_login`. -/
def requireLogin (request : Request) (db : Database τ) : Except Response (Id × User) :=
  match request.cookie sessionCookieName with
  | none => .error (.redirectToLogin none)
  | some rawToken =>
    if rawToken = "" then .error (.redirectToLogin none)
    else
      match db.sessionOf env rawToken with
      | none => .error (.redirectToLogin none)
      | some userSession =>
        if userSession.revokedAt.isSome then .error (.redirectToLogin none)
        else if userSession.expiresAt < env.now then .error (.redirectToLogin none)
        else
          Users.requireActive db.users[userSession.userId]?
            (fun message => .error (.redirectToLogin message))
            fun user => .ok (userSession.userId, user)

/-- `WRITE_ROLES`. -/
def writeRoles : List UserRole := [.admin, .operator]

/-- `require_admin`. -/
def requireAdmin (request : Request) (db : Database τ) : Except Response (Id × User) := do
  let user ← requireLogin env request db
  if user.2.role ≠ .admin then throw (.httpError 403 "Admin privileges required")
  return user

/-- `require_write_access`. -/
def requireWriteAccess (request : Request) (db : Database τ) : Except Response (Id × User) := do
  let user ← requireLogin env request db
  if user.2.role ∉ writeRoles then throw (.httpError 403 "Write access required")
  return user

/-- What the two CSRF checks raise. -/
def refuseUnlessMatch (cookieValue submittedValue : Option String) : Except Response Unit := do
  let matched ← csrfTokensMatch cookieValue submittedValue
  if matched then return () else throw (.httpError 400 "CSRF validation failed")

/-- `verify_csrf` with the value of its form field. -/
def verifyCsrf (request : Request) (csrfToken : String) : Except Response Unit :=
  refuseUnlessMatch (request.cookie csrfCookieName) (some csrfToken)

/-- `verify_csrf_header`. -/
def verifyCsrfHeader (request : Request) : Except Response Unit :=
  refuseUnlessMatch (request.cookie csrfCookieName) (request.header "x-csrf-token")

/-! ## Routes -/

/-- The dependencies besides `get_db`, which every route here has. -/
inductive Dependency
  | requireLogin
  | requireAdmin
  | requireWriteAccess
  | verifyCsrf
  | verifyCsrfHeader
  deriving DecidableEq, Repr

/-- What comes of a dependency. -/
inductive Solved
  | passed
  /-- a field of the form is missing or no text -/
  | invalid
  | raised (response : Response)

/-- A check that either raises or passes. -/
def Solved.ofExcept {α : Type} : Except Response α → Solved
  | .ok _ => .passed
  | .error response => .raised response

/-- Ask a dependency. An empty text counts as a missing field. -/
def Dependency.solve (request : Request) (db : Database τ) : Dependency → Solved
  | .requireLogin => .ofExcept (Routes.requireLogin env request db)
  | .requireAdmin => .ofExcept (Routes.requireAdmin env request db)
  | .requireWriteAccess => .ofExcept (Routes.requireWriteAccess env request db)
  | .verifyCsrf =>
    match request.field "csrf_token" with
    | some (.text csrfToken) =>
      if csrfToken = "" then .invalid else .ofExcept (Routes.verifyCsrf request csrfToken)
    | _ => .invalid
  | .verifyCsrfHeader => .ofExcept (Routes.verifyCsrfHeader request)

/-- Ask the dependencies in their order; `invalid` if a field was missing before. -/
def solveDependencies (request : Request) (db : Database τ) (invalid : Bool) :
    List Dependency → Except Response Unit
  | [] => if invalid then .error .unprocessable else .ok ()
  | dependency :: rest =>
    match dependency.solve env request db with
    | .passed => solveDependencies request db invalid rest
    | .invalid => solveDependencies request db true rest
    | .raised response => .error response

/-- What a route reads its body as. -/
inductive BodyKind
  | none
  | form
  | json
  deriving DecidableEq, Repr

/-- The methods that change something. -/
inductive Method
  | post
  | patch
  | delete
  deriving DecidableEq, Repr

/-- A path operation with the rest of its parameters, and the session that it is given. -/
abbrev Handler (τ : Type) := Environment → Request → Database τ → Response × Database τ

/-- A route with its own dependencies and those of its router. -/
structure Route (τ : Type) where
  method : Method
  path : String
  body : BodyKind
  dependencies : List Dependency
  handler : Handler τ

/-- A route of a router, whose path and dependencies stand first. -/
def Route.under (base : String) (dependencies : List Dependency) (route : Route τ) : Route τ :=
  { route with
    path := base ++ route.path
    dependencies := dependencies ++ route.dependencies }

/-- The routes of an `APIRouter`. -/
def apiRouter (base : String) (dependencies : List Dependency) (routes : List (Route τ)) :
    List (Route τ) :=
  routes.map (Route.under base dependencies)

/-- The body can be read. -/
def Route.bodyReadable (route : Route τ) (request : Request) : Bool :=
  match route.body with
  | .none => true
  | .form => request.form.isSome
  | .json => request.isJson

/-- Answer a request to a route. -/
def Route.serve (route : Route τ) (request : Request) (db : Database τ) :
    Response × Database τ :=
  if route.bodyReadable request = false then
    (if route.body = .json then .unprocessable
      else .httpError 400 "There was an error parsing the body", db)
  else
    match solveDependencies env request db false route.dependencies with
    | .error response => (response, db)
    | .ok () => route.handler env request db

/-- The session after a path operation that may raise: `get_db` commits or rolls back. -/
def committing (db : Database τ) :
    Except Response (Response × Database τ) → Response × Database τ
  | .ok result => result
  | .error response => (response, db)

end MiniGrc.Routes
