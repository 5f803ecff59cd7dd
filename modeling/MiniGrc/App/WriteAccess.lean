import MiniGrc.App.Dispatch

/-!
# Who may write

The routes of the registers declare `require_login` only; `_check_permission` is the first thing
that their path operations do. Any number of requests are served one after the other, each in a
session of its own.
-/

namespace MiniGrc.Routes

open Events
open Users (User UserRole)
open Registers (RegisterAction RegisterConfig checkPermission registerConfigs)

variable {τ : Type}

/-- `_check_permission` with the response to what it raises. -/
def checkRegisterPermission (config : RegisterConfig) (action : RegisterAction) (user : User) :
    Except Response Unit :=
  match checkPermission config action user.role.text with
  | .ok () => .ok ()
  | .error (.forbidden detail) => .error (.httpError 403 detail)
  -- it raises nothing else
  | .error _ => .error .serverError

/-- A path operation of `build_register_router`: the permission, and then whatever the action
    does for the user. -/
def registerHandler (config : RegisterConfig) (action : RegisterAction)
    (rest : Id × User → Handler (Tables τ)) : Handler (Tables τ) :=
  fun env request db => committing db do
    let user ← requireLogin env request db
    checkRegisterPermission config action user.2
    return rest user env request db

/-- The path operations of the registers, with the action that each of them checks. -/
def registerActions : List (String × RegisterConfig × RegisterAction) :=
  registerConfigs.flatMap fun config => [
    (config.name ++ ".create_row", config, .create),
    (config.name ++ ".update_row", config, .edit),
    (config.name ++ ".delete_row", config, .delete),
    (config.name ++ ".bulk_update", config, .edit)]

/-- The path operations by their names: those of the registers check the permission. -/
def pathOperations (rowOperations : String → Id × User → Handler (Tables τ))
    (operations : String → Handler (Tables τ)) (name : String) : Handler (Tables τ) :=
  match registerActions.find? fun entry => entry.1 = name with
  | some entry => registerHandler entry.2.1 entry.2.2 (rowOperations name)
  | none => operations name

/-! ## Requests, one after the other -/

/-- A request to the application, with what the environment contributes; the parameters of the
    path are not in the request yet. -/
structure Call where
  env : Environment
  method : Method
  path : String
  request : Request

/-- The route of a call. -/
def Call.route (routes : List (Route τ)) (call : Call) : Option (Route τ) :=
  (dispatch routes call.method call.path).map Prod.fst

/-- The database after a call; the answer to a path without a route is 404 or 405. -/
def Call.run (routes : List (Route τ)) (call : Call) (db : Database τ) : Database τ :=
  match dispatch routes call.method call.path with
  | none => db
  | some (route, params) =>
    (route.serve call.env { call.request with pathParams := params } db).2

/-- The database after some calls. -/
def serveAll (routes : List (Route τ)) (db : Database τ) : List Call → Database τ
  | [] => db
  | call :: calls => serveAll routes (call.run routes db) calls

end MiniGrc.Routes
