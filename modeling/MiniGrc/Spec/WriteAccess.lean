import MiniGrc.App.WriteAccess
import MiniGrc.Spec.CsrfProtection
import MiniGrc.Spec.Dispatch

/-!
# Writes need a role

On every path, apart from those of signing in and out, a request of anybody but an active admin
or operator leaves the database as it is, and on the admin routes a request of an operator does
as well. Whatever such requests are mixed into a run, the others find and leave the same database
as without them.

## Key results

- `solved_of_solveDependencies`: every dependency of a request that gets through has passed
- `run_eq_of_not_authorized`: one request
- `unauthorized_change_nothing`: any number of requests
-/

namespace MiniGrc.Routes

open Except
open PathPatterns (bindings parts pattern)
open Users (User UserRole)
open Registers (RegisterAction RegisterConfig checkPermission registerConfigs)

variable {τ : Type} {env : Environment} {request : Request} {db : Database τ}

/-! ## The property -/

/-- The routes of the registers that only admins may write. -/
def adminRegisterPaths : List String :=
  ["/api/registers/trust-center-sections", "/api/registers/trust-center-sections/{row_id}",
    "/api/registers/trust-center-sections/bulk", "/api/registers/admin_users/{row_id}",
    "/api/registers/admin_jobs/{row_id}"]

/-- The routes that only admins may use. -/
def Route.needsAdmin (route : Route τ) : Bool :=
  route.dependencies.contains .requireAdmin || adminRegisterPaths.contains route.path

/-- The session of the request is that of an active user with a role that may use the route of
    the path. -/
def Call.authorized (routes : List (Route τ)) (call : Call) (db : Database τ) : Bool :=
  match requireLogin call.env call.request db with
  | .error _ => false
  | .ok user =>
    writeRoles.contains user.2.role &&
      (call.route routes).all fun route => !route.needsAdmin || user.2.role = .admin

/-- The calls that are authorized at the time when they are served. -/
def authorizedCalls (routes : List (Route τ)) (db : Database τ) : List Call → List Call
  | [] => []
  | call :: calls =>
    if call.authorized routes db then
      call :: authorizedCalls routes (call.run routes db) calls
    else authorizedCalls routes (call.run routes db) calls

/-- The path is that of `/login` or `/logout`. -/
def Call.isSignInOrOut (routes : List (Route τ)) (call : Call) : Bool :=
  (call.route routes).any fun route => route.path = "/login" || route.path = "/logout"

theorem authorized_of_route {rs : List (Route τ)} {call : Call} {route : Route τ}
    {user : Id × User} (hroute : call.route rs = some route)
    (hlogin : requireLogin call.env call.request db = .ok user) (hrole : user.2.role ∈ writeRoles)
    (hadmin : route.needsAdmin → user.2.role = .admin) : call.authorized rs db := by
  rw [Call.authorized, hlogin, hroute]
  simpa [← Bool.not_eq_true, imp_iff_not_or] using And.intro hrole (imp_iff_not_or.1 hadmin)

/-! ## Dependencies -/

/-- A request that gets through has passed every dependency. -/
theorem solved_of_solveDependencies {invalid : Bool} {dependencies : List Dependency}
    (h : solveDependencies env request db invalid dependencies = .ok ()) :
    ∀ dependency ∈ dependencies, dependency.solve env request db = .passed := by
  -- a missing field is not forgotten
  have hinvalid : ∀ rest, solveDependencies env request db true rest ≠ .ok () := by
    intro rest
    induction rest with
    | nil => exact fun h => by cases h
    | cons dependency rest ih =>
      rw [solveDependencies]
      cases dependency.solve env request db with
      | passed => exact ih
      | invalid => exact ih
      | raised response => exact fun h => by cases h
  induction dependencies with
  | nil => simp
  | cons dependency rest ih =>
    rw [solveDependencies] at h
    cases hsolve : dependency.solve env request db with
    | passed =>
      rw [hsolve] at h
      exact List.forall_mem_cons.2 ⟨hsolve, ih h⟩
    | invalid =>
      rw [hsolve] at h
      exact absurd h (hinvalid rest)
    | raised response =>
      rw [hsolve] at h
      cases h

/-- `require_write_access` lets the admins and the operators pass. -/
theorem requireWriteAccess_eq_ok {user : Id × User} :
    requireWriteAccess env request db = .ok user ↔
      requireLogin env request db = .ok user ∧ user.2.role ∈ writeRoles :=
  checked_eq_ok (p := fun user : Id × User => user.2.role ∈ writeRoles)

/-- A request that changes the database has been read and has passed the dependencies. -/
theorem passed_of_serve_ne {route : Route τ} (h : (route.serve env request db).2 ≠ db) :
    (∀ dependency ∈ route.dependencies, dependency.solve env request db = .passed) ∧
      (route.handler env request db).2 ≠ db := by
  unfold Route.serve at h
  split at h
  · exact absurd rfl h
  split at h
  · exact absurd rfl h
  · next hsolve => exact ⟨solved_of_solveDependencies hsolve, h⟩

/-! ## The routes -/

/-- One of the dependencies of the route asks for a role. -/
def Route.asksRole (route : Route τ) : Bool :=
  route.dependencies.any fun dependency =>
    dependency = .requireAdmin || dependency = .requireWriteAccess

/-- The routers other than those of the registers. -/
def plainRoutes (handlers : String → Handler (Tables τ)) : List (Route (Tables τ)) :=
  trustCenterRoutes ++
  [onboardingRoutes handlers, frameworksRoutes handlers,
    controlsRoutes handlers, controlPeriodsRoutes handlers, occurrencesRoutes handlers,
    controlTestsRoutes handlers, findingsRoutes handlers, policiesRoutes handlers,
    risksRoutes handlers, peopleRoutes handlers, vendorSystemsRoutes handlers,
    googleDriveRoutes handlers, awsConnectorRoutes handlers, connectionsRoutes handlers,
    evidenceRoutes handlers, evidenceArtifactsRoutes handlers, auditPackageRoutes handlers,
    adminUsersRoutes handlers, adminAuthenticationRoutes handlers,
    adminApiTokensRoutes handlers].flatten

theorem mem_routes_cases {handlers : String → Handler (Tables τ)} {route : Route (Tables τ)}
    (h : route ∈ routes handlers) :
    route ∈ plainRoutes handlers ∨ route ∈ authRoutes handlers ∨
      route ∈ registerConfigs.flatMap (buildRegisterRouter handlers) := by
  rw [routes, otherRoutes, List.flatten_cons] at h
  rw [plainRoutes]
  simp only [List.mem_append] at h ⊢
  tauto

theorem plainRoutes_asksRole (handlers : String → Handler (Tables τ)) :
    (plainRoutes handlers).all (fun route =>
      route.asksRole && !adminRegisterPaths.contains route.path) = true := rfl

theorem authRoutes_path (handlers : String → Handler (Tables τ)) :
    (authRoutes handlers).map Route.path = ["/login", "/logout"] := rfl

/-! ## Registers -/

/-- The routes of a register: the rest of the path, the path operation, the action. -/
def registerOperations (config : RegisterConfig) : List (String × String × RegisterAction) :=
  (if config.creatable then [("", "create_row", .create)] else []) ++
    [("/{row_id}", "update_row", .edit)] ++
    (if config.deletable then [("/{row_id}", "delete_row", .delete)] else []) ++
    if config.bulkEnabled then [("/bulk", "bulk_update", .edit)] else []

theorem mem_buildRegisterRouter {handlers : String → Handler (Tables τ)}
    {config : RegisterConfig} {route : Route (Tables τ)}
    (h : route ∈ buildRegisterRouter handlers config) :
    ∃ x ∈ registerOperations config, route.path = "/api/registers/" ++ config.name ++ x.1 ∧
      route.handler = handlers (config.name ++ "." ++ x.2.1) ∧
      route.dependencies = [.requireLogin, .verifyCsrfHeader] := by
  rw [buildRegisterRouter, apiRouter, List.mem_map] at h
  obtain ⟨route', hmem, rfl⟩ := h
  simp only [List.mem_append, List.mem_ite_nil_right, List.mem_singleton] at hmem
  simp only [registerOperations, List.mem_append, List.mem_ite_nil_right, List.mem_singleton]
  rcases hmem with ((⟨hcreatable, rfl⟩ | rfl) | ⟨hdeletable, rfl⟩) | ⟨hbulk, rfl⟩
  · exact ⟨("", "create_row", .create), .inl (.inl (.inl ⟨hcreatable, rfl⟩)), rfl, rfl, rfl⟩
  · exact ⟨("/{row_id}", "update_row", .edit), .inl (.inl (.inr rfl)), rfl, rfl, rfl⟩
  · exact ⟨("/{row_id}", "delete_row", .delete), .inl (.inr ⟨hdeletable, rfl⟩), rfl, rfl, rfl⟩
  · exact ⟨("/bulk", "bulk_update", .edit), .inr ⟨hbulk, rfl⟩, rfl, rfl, rfl⟩

/-- Every path operation of a register has its entry; where only admins may write, it asks for
    one. -/
theorem registerActions_find : (registerConfigs.all fun config =>
    (registerOperations config).all fun x =>
      (registerActions.find? fun entry => entry.1 = config.name ++ "." ++ x.2.1).any fun entry =>
        !adminRegisterPaths.contains ("/api/registers/" ++ config.name ++ x.1) ||
          entry.2.1.requireAdminFor.contains entry.2.2) = true := by
  decide +kernel

variable {rowOperations : String → Id × User → Handler (Tables τ)}
  {operations : String → Handler (Tables τ)}

/-- A route of a register checks a permission, that of an admin where only admins may write. -/
theorem registerRoutes_handler {route : Route (Tables τ)}
    (h : route ∈ registerConfigs.flatMap
      (buildRegisterRouter (pathOperations rowOperations operations))) :
    ∃ config action rest, route.handler = registerHandler config action rest ∧
      (route.needsAdmin → action ∈ config.requireAdminFor) := by
  obtain ⟨config, hconfig, hroute⟩ := List.mem_flatMap.1 h
  obtain ⟨x, hx, hpath, hhandler, hdependencies⟩ := mem_buildRegisterRouter hroute
  have hfind := List.all_eq_true.1 (List.all_eq_true.1 registerActions_find config hconfig) x hx
  obtain ⟨entry, hentry, hadmin⟩ := (Option.any_eq_true _ _).1 hfind
  refine ⟨entry.2.1, entry.2.2, rowOperations (config.name ++ "." ++ x.2.1), ?_, ?_⟩
  · rw [hhandler, pathOperations, hentry]
  · intro hneeds
    have hmem : adminRegisterPaths.contains ("/api/registers/" ++ config.name ++ x.1) := by
      simpa [Route.needsAdmin, hdependencies, hpath] using hneeds
    rw [hmem, Bool.not_true, Bool.false_or] at hadmin
    exact List.contains_iff_mem.1 hadmin

/-! ## One request -/

/-- Whom the permission of an action lets pass. -/
theorem role_of_checkRegisterPermission {config : RegisterConfig} {action : RegisterAction}
    {user : User} (h : checkRegisterPermission config action user = .ok ()) :
    user.role ∈ writeRoles ∧ (action ∈ config.requireAdminFor → user.role = .admin) := by
  unfold checkRegisterPermission at h
  split at h
  swap
  · cases h
  swap
  · cases h
  next hcheck =>
  unfold checkPermission at hcheck
  split at hcheck
  · cases hcheck
  next hadmin =>
  split at hcheck
  · cases hcheck
  next hrole =>
  rw [Classical.not_not] at hrole
  rw [not_and_or, Classical.not_not] at hadmin
  -- the texts of the roles name the roles
  have htext : user.role.text ∈ Registers.writeRoles → user.role ∈ writeRoles := by
    cases user.role <;> decide
  have hadminText : user.role.text = "admin" → user.role = .admin := by
    cases user.role <;> decide
  refine ⟨htext hrole, fun haction => ?_⟩
  rcases hadmin with hnot | htextAdmin
  · exact absurd haction hnot
  · exact hadminText htextAdmin

/-- A path operation of a register that changes something has checked its permission. -/
theorem role_of_registerHandler {config : RegisterConfig} {action : RegisterAction}
    {rest : Id × User → Handler (Tables τ)} {db : Database (Tables τ)}
    (h : (registerHandler config action rest env request db).2 ≠ db) :
    ∃ user, requireLogin env request db = .ok user ∧ user.2.role ∈ writeRoles ∧
      (action ∈ config.requireAdminFor → user.2.role = .admin) := by
  unfold registerHandler at h
  cases hlogin : requireLogin env request db with
  | error response =>
    rw [hlogin] at h
    exact absurd rfl h
  | ok user =>
    refine ⟨user, rfl, ?_⟩
    cases hcheck : checkRegisterPermission config action user.2 with
    | error response =>
      rw [hlogin] at h
      simp only [bind, Except.bind, hcheck] at h
      exact absurd rfl h
    | ok u => exact role_of_checkRegisterPermission hcheck

/-- A dependency that asks for a role lets only users with that role pass. -/
theorem role_of_asksRole {route : Route τ} (hrole : route.asksRole)
    (h : ∀ dependency ∈ route.dependencies, dependency.solve env request db = .passed) :
    ∃ user, requireLogin env request db = .ok user ∧ user.2.role ∈ writeRoles ∧
      (.requireAdmin ∈ route.dependencies → user.2.role = .admin) := by
  -- all of them ask for the same user
  have hadmin : .requireAdmin ∈ route.dependencies → ∃ user,
      requireLogin env request db = .ok user ∧ user.2.role = .admin := by
    intro hmem
    obtain ⟨user, huser⟩ := Solved.ofExcept_eq_passed (h _ hmem)
    exact ⟨user, requireAdmin_eq_ok.1 huser⟩
  obtain ⟨dependency, hmem, hdependency⟩ := List.any_eq_true.1 hrole
  rw [Bool.or_eq_true, decide_eq_true_eq, decide_eq_true_eq] at hdependency
  rcases hdependency with rfl | rfl
  · obtain ⟨user, hlogin, hadminRole⟩ := hadmin hmem
    refine ⟨user, hlogin, ?_, fun _ => hadminRole⟩
    rw [hadminRole]
    decide
  · obtain ⟨user, huser⟩ := Solved.ofExcept_eq_passed (h _ hmem)
    obtain ⟨hlogin, hwrite⟩ := requireWriteAccess_eq_ok.1 huser
    refine ⟨user, hlogin, hwrite, fun hneeds => ?_⟩
    obtain ⟨user', hlogin', hadminRole⟩ := hadmin hneeds
    obtain rfl := Except.ok.inj (hlogin.symm.trans hlogin')
    exact hadminRole

variable {order : List (Route (Tables τ))}

/-- A call that is not authorized leaves the database as it is. -/
theorem run_eq_of_not_authorized {call : Call} {db : Database (Tables τ)}
    (horder : order.Perm (routes (pathOperations rowOperations operations)))
    (hsign : call.isSignInOrOut order = false) (h : call.authorized order db = false) :
    call.run order db = db := by
  unfold Call.run
  split
  · rfl
  next route params hdispatch =>
  by_contra hne
  obtain ⟨hpassed, hhandler⟩ := passed_of_serve_ne hne
  have hmem := ((dispatch_eq_some_iff horder).1 hdispatch).1
  have hroute : call.route order = some route := by rw [Call.route, hdispatch, Option.map_some]
  suffices hauthorized : call.authorized order db by
    rw [h] at hauthorized
    cases hauthorized
  rcases mem_routes_cases hmem with hplain | hauth | hregister
  · have hcheck := List.all_eq_true.1 (plainRoutes_asksRole _) _ hplain
    rw [Bool.and_eq_true, Bool.not_eq_true'] at hcheck
    obtain ⟨user, huser, hwrite, hadmin⟩ := role_of_asksRole hcheck.1 hpassed
    refine authorized_of_route hroute huser hwrite fun hneeds => hadmin ?_
    rw [Route.needsAdmin, hcheck.2, Bool.or_false] at hneeds
    exact List.contains_iff_mem.1 hneeds
  · have hpath : route.path ∈ ["/login", "/logout"] := by
      rw [← authRoutes_path (pathOperations rowOperations operations)]
      exact List.mem_map_of_mem hauth
    rw [Call.isSignInOrOut, hroute, Option.any_some, Bool.or_eq_false_iff, decide_eq_false_iff_not,
      decide_eq_false_iff_not] at hsign
    simp [hsign.1, hsign.2] at hpath
  · obtain ⟨config, action, rest, hrest, hadmin⟩ := registerRoutes_handler hregister
    rw [hrest] at hhandler
    obtain ⟨user, huser, hwrite, hrole⟩ := role_of_registerHandler hhandler
    exact authorized_of_route hroute huser hwrite fun hneeds => hrole (hadmin hneeds)

/-! ## Any number of requests -/

/-- In every sequence of `POST`, `PATCH` and `DELETE` requests to any paths but `/login` and
    `/logout`, those that are not authorized when they are served can be left out: the database
    at the end is the same. -/
theorem unauthorized_change_nothing {calls : List Call}
    (horder : order.Perm (routes (pathOperations rowOperations operations)))
    (hcalls : ∀ call ∈ calls, call.isSignInOrOut order = false) (db : Database (Tables τ)) :
    serveAll order db (authorizedCalls order db calls) = serveAll order db calls := by
  induction calls generalizing db with
  | nil => rfl
  | cons call calls ih =>
    obtain ⟨hcall, hcalls⟩ := List.forall_mem_cons.1 hcalls
    rw [authorizedCalls]
    cases hauthorized : call.authorized order db with
    | true =>
      rw [if_pos rfl, serveAll, serveAll]
      exact ih hcalls (call.run order db)
    | false =>
      rw [if_neg Bool.false_ne_true, serveAll, run_eq_of_not_authorized horder hcall hauthorized]
      exact ih hcalls db

/-- An admin and a reader with sessions, and a section in draft. -/
def sharedDatabase : Database (Tables Unit) where
  users := (forgedDatabase.users).insert 3 { email := "reader@example.com", role := .reader }
  userSessions := (forgedDatabase.userSessions).insert 4 {
    userId := 3, tokenHash := "r34d3r", createdAt := 0, expiresAt := 200 }
  tables := forgedDatabase.tables

/-- A request to publish the section with the cookie of a session. -/
def publishCall (cookie : String) : Call where
  env := forgedEnvironment
  method := .post
  path := "/trust-center/admin/sections/7/publish"
  request := { forgedRequest with cookies := [("session", cookie)], pathParams := [] }

/-- The routes with path operations that do nothing else. -/
def idleRoutes : List (Route (Tables Unit)) :=
  routes (pathOperations (fun _ _ _ _ db => (.served 200, db)) fun _ _ _ db => (.served 200, db))

theorem dispatch_publishCall (cookie : String) :
    dispatch idleRoutes (publishCall cookie).method (publishCall cookie).path =
      some (forgedRoute, [("section_id", "7")]) := by
  have hmatch : bindings (pattern "/trust-center/admin/sections/{section_id}/publish")
      (parts "/trust-center/admin/sections/7/publish") = some [("section_id", "7")] := by
    decide +kernel
  exact (dispatch_eq_some_iff (.refl _)).2
    ⟨forgedRoute_mem _, match?_eq_some_iff.2 ⟨rfl, hmatch⟩⟩

/-- The requests of the reader do not count, neither before nor after the admin's. -/
theorem unauthorized_change_nothing_publish :
    authorizedCalls idleRoutes sharedDatabase
        [publishCall "r34d3r", publishCall "s3cr3t", publishCall "r34d3r"] =
      [publishCall "s3cr3t"] ∧
    serveAll idleRoutes sharedDatabase (authorizedCalls idleRoutes sharedDatabase
        [publishCall "r34d3r", publishCall "s3cr3t", publishCall "r34d3r"]) =
      serveAll idleRoutes sharedDatabase
        [publishCall "r34d3r", publishCall "s3cr3t", publishCall "r34d3r"] := by
  have hsign : ∀ cookie, (publishCall cookie).isSignInOrOut idleRoutes = false := by
    intro cookie
    rw [Call.isSignInOrOut, Call.route, dispatch_publishCall]
    decide
  have hrefused : (publishCall "r34d3r").authorized idleRoutes sharedDatabase = false := by
    rw [Call.authorized, Call.route, dispatch_publishCall]
    decide
  have hadmitted : (publishCall "s3cr3t").authorized idleRoutes sharedDatabase = true := by
    rw [Call.authorized, Call.route, dispatch_publishCall]
    decide
  have hafter : (publishCall "r34d3r").authorized idleRoutes
      ((publishCall "s3cr3t").run idleRoutes sharedDatabase) = false := by
    rw [Call.authorized, Call.route, dispatch_publishCall, Call.run, dispatch_publishCall]
    decide
  have hsame : (publishCall "r34d3r").run idleRoutes sharedDatabase = sharedDatabase :=
    run_eq_of_not_authorized (.refl _) (hsign _) hrefused
  refine ⟨?_, unauthorized_change_nothing (.refl _) (fun call hcall => ?_) sharedDatabase⟩
  · rw [authorizedCalls, hrefused, if_neg Bool.false_ne_true, hsame, authorizedCalls, hadmitted,
      if_pos rfl, authorizedCalls, hafter, if_neg Bool.false_ne_true, authorizedCalls]
  · simp only [List.mem_cons, List.not_mem_nil, or_false] at hcall
    rcases hcall with rfl | rfl | rfl
    · exact hsign "r34d3r"
    · exact hsign "s3cr3t"
    · exact hsign "r34d3r"

end MiniGrc.Routes
