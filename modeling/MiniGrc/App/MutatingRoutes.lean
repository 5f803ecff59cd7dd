import MiniGrc.App.Dependencies
import MiniGrc.App.RegisterConfigs
import MiniGrc.App.TrustCenter

/-!
# The routes that change something

Every `POST`, `PATCH` and `DELETE` route that `create_app` includes, with the dependencies that
it and its router declare. The path operations of `app/routers/trust_center.py` are given in
full; the others are whatever is registered under their names.
-/

namespace MiniGrc.Routes

open Events
open Users (User AuditEvent)
open Registers (RegisterConfig registerConfigs)

/-! ## Tables -/

deriving instance DecidableEq for TrustCenter.TrustCenterSettings

/-- A row of `trust_center_settings` with its `updated_at`; the key is its `id`. -/
structure Settings extends TrustCenter.TrustCenterSettings where
  updatedAt : Time
  deriving DecidableEq

/-- A row of `trust_center_sections` with its link to a framework; the key is its `id`. -/
structure Section extends TrustCenter.TrustCenterSection where
  linkedFrameworkId : Option Id := none
  deriving DecidableEq

/-- The tables that the trust center reads and writes, and the others. -/
structure Tables (τ : Type) where
  settings : Table Settings
  sections : Table Section
  /-- the ids of `frameworks` and of `policies` -/
  frameworks : List Id
  policies : List Id
  auditEvents : List AuditEvent
  others : τ

variable {τ : Type}

/-! ## Parameters -/

/-- A `Form` parameter that is a text; without a default it is required. -/
def Request.formText (request : Request) (name : String) (default : Option String) :
    Except Response String :=
  match request.field name with
  | some (.file _ _) => .error .unprocessable
  | some (.text value) =>
    if value = "" then (default.map Except.ok).getD (.error .unprocessable) else .ok value
  | none => (default.map Except.ok).getD (.error .unprocessable)

/-- A `Form` parameter that is a truth value, `False` by default. -/
def Request.formBool (env : Environment) (request : Request) (name : String) :
    Except Response Bool :=
  match request.field name with
  | some (.file _ _) => .error .unprocessable
  | some (.text value) =>
    if value = "" then .ok false
    else
      match env.parseBool value with
      | some flag => .ok flag
      | none => .error .unprocessable
  | none => .ok false

/-- A parameter of the path. -/
def Request.pathParam (request : Request) (name : String) : String :=
  (((request.pathParams.find? fun entry => entry.1 = name)).map Prod.snd).getD ""

/-! ## `app/trust_center.py` -/

/-- A row with `updated_at` set if something else changes. -/
def Settings.write (row row' : Settings) (now : Time) : Settings :=
  if row' = row then row else { row' with updatedAt := now }

/-- A row with `updated_at` set if something else changes. -/
def Section.write (row row' : Section) (now : Time) : Section :=
  if row' = row then row else { row' with updatedAt := now }

/-- `get_or_create_settings`. -/
def getOrCreateSettings (env : Environment) (t : Tables τ) : Id × Settings :=
  t.settings.toList.head?.getD (env.newId, { updatedAt := env.now })

/-- `publish_section`. -/
def publishSection (env : Environment) (row : Section) (userId : Id) : Section :=
  row.write { row with
    publishedBodyMarkdown := some row.draftBodyMarkdown
    publishedAt := some env.now
    publishedByUserId := some userId
    status := .published } env.now

/-- `unpublish_section`. -/
def unpublishSection (env : Environment) (row : Section) : Section :=
  row.write { row with status := .draft } env.now

/-! ## `app/routers/trust_center.py` -/

/-- `_get_section_or_404`. -/
def Tables.section (t : Tables τ) (sectionId : String) : Except Response (Id × Section) :=
  match t.sections.toList.find? fun entry => toString entry.1 = sectionId with
  | some found => .ok found
  | none => .error (.httpError 404 "Trust Center section not found")

/-- A change of a section, with its audit event. -/
def Tables.writeSection (t : Tables τ) (sectionId : Id) (row : Section)
    (action detail : String) (actor : User) : Tables τ :=
  { t with
    sections := t.sections.insert sectionId row
    auditEvents := t.auditEvents ++ [{
      entityType := "trust_center_section"
      entityId := sectionId
      action := action
      detail := detail
      actor := actor.email }] }

/-- The id of a link: none for an empty text; one that no row has violates the foreign key. -/
def linkedId (ids : List Id) (text : String) : Except Response (Option Id) :=
  if text = "" then .ok none
  else
    match ids.find? fun id => toString id = text with
    | some id => .ok (some id)
    | none => .error .serverError

/-- `update_settings`. -/
def updateSettings : Handler (Tables τ) := fun env request db => committing db do
  let enabled ← request.formBool env "enabled"
  let title ← request.formText "title" none
  let introMarkdown ← request.formText "intro_markdown" (some "")
  let contactEmail ← request.formText "contact_email" (some "")
  let supportUrl ← request.formText "support_url" (some "")
  let (userId, user) ← requireAdmin env request db
  let (settingsId, settings) := getOrCreateSettings env db.tables
  if !(env.storable (some 255) title && env.storable none introMarkdown &&
      env.storable (some 255) contactEmail && env.storable (some 2048) supportUrl) then
    throw .serverError
  let row := settings.write { settings with
    enabled, title, introMarkdown, contactEmail, supportUrl
    updatedByUserId := some userId } env.now
  let flag := if enabled then "True" else "False"
  return (.redirectWithFlash "/trust-center/admin" "Trust Center settings updated.",
    { db with tables := { db.tables with
      settings := db.tables.settings.insert settingsId row
      auditEvents := db.tables.auditEvents ++ [{
        entityType := "trust_center_settings"
        entityId := settingsId
        action := "update"
        detail := "Updated Trust Center settings (enabled=" ++ flag ++ ")"
        actor := user.email }] } })

/-- `update_section`. -/
def updateSection : Handler (Tables τ) := fun env request db => committing db do
  let draftBodyMarkdown ← request.formText "draft_body_markdown" (some "")
  let reviewDate ← request.formText "review_date" (some "")
  let expiryDate ← request.formText "expiry_date" (some "")
  let linkedFrameworkId ← request.formText "linked_framework_id" (some "")
  let linkedPolicyId ← request.formText "linked_policy_id" (some "")
  let (_, user) ← requireAdmin env request db
  let (id, row) ← db.tables.section (request.pathParam "section_id")
  let frameworkId ← linkedId db.tables.frameworks linkedFrameworkId
  let policyId ← linkedId db.tables.policies linkedPolicyId
  if !env.storable none draftBodyMarkdown then throw .serverError
  let row' := row.write { row with
    draftBodyMarkdown
    reviewDate := env.parseDate reviewDate
    expiryDate := env.parseDate expiryDate
    linkedFrameworkId := frameworkId
    linkedPolicyId := policyId } env.now
  let detail := "Updated draft content for Trust Center section '" ++ row.title ++ "'"
  return (.redirectWithFlash
      ("/trust-center/admin/sections/" ++ request.pathParam "section_id") "Section updated.",
    { db with tables := db.tables.writeSection id row' "update" detail user })

/-- `publish_section_route`. -/
def publishSectionRoute : Handler (Tables τ) := fun env request db => committing db do
  let (userId, user) ← requireAdmin env request db
  let (id, row) ← db.tables.section (request.pathParam "section_id")
  let row' := publishSection env row userId
  let detail := "Published Trust Center section '" ++ row.title ++ "'"
  return (.redirectWithFlash
      ("/trust-center/admin/sections/" ++ request.pathParam "section_id") "Section published.",
    { db with tables := db.tables.writeSection id row' "publish" detail user })

/-- `unpublish_section_route`. -/
def unpublishSectionRoute : Handler (Tables τ) := fun env request db => committing db do
  let (_, user) ← requireAdmin env request db
  let (id, row) ← db.tables.section (request.pathParam "section_id")
  let row' := unpublishSection env row
  let detail := "Unpublished Trust Center section '" ++ row.title ++ "'"
  return (.redirectWithFlash
      ("/trust-center/admin/sections/" ++ request.pathParam "section_id") "Section unpublished.",
    { db with tables := db.tables.writeSection id row' "unpublish" detail user })

/-- `@router.post(path)` with a form. -/
def post (path : String) (dependencies : List Dependency) (handler : Handler (Tables τ)) :
    Route (Tables τ) :=
  ⟨.post, path, .form, dependencies, handler⟩

/-- `POST /settings`. -/
def settingsRoute : Route (Tables τ) := post "/settings" [.requireAdmin] updateSettings

/-- `POST /sections/{section_id}`. -/
def sectionRoute : Route (Tables τ) := post "/sections/{section_id}" [.requireAdmin] updateSection

/-- `POST /sections/{section_id}/publish`, which reads no body. -/
def publishRoute : Route (Tables τ) :=
  ⟨.post, "/sections/{section_id}/publish", .none, [.requireAdmin], publishSectionRoute⟩

/-- `POST /sections/{section_id}/unpublish`, which reads no body. -/
def unpublishRoute : Route (Tables τ) :=
  ⟨.post, "/sections/{section_id}/unpublish", .none, [.requireAdmin], unpublishSectionRoute⟩

/-- `app/routers/trust_center.py`. -/
def trustCenterRoutes : List (Route (Tables τ)) :=
  apiRouter "/trust-center/admin" [.requireAdmin]
    [settingsRoute, sectionRoute, publishRoute, unpublishRoute]

/-! ## The other routers -/

section Routers

variable (handlers : String → Handler (Tables τ))

/-- A route of `build_register_router`. -/
def registerRoute (config : RegisterConfig) (method : Method) (path : String) (body : BodyKind)
    (name : String) : Route (Tables τ) :=
  ⟨method, path, body, [.requireLogin, .verifyCsrfHeader],
    handlers (config.name ++ "." ++ name)⟩

/-- `build_register_router`. -/
def buildRegisterRouter (config : RegisterConfig) : List (Route (Tables τ)) :=
  apiRouter ("/api/registers/" ++ config.name) []
    ((if config.creatable then [registerRoute handlers config .post "" .json "create_row"]
        else []) ++
      [registerRoute handlers config .patch "/{row_id}" .json "update_row"] ++
      (if config.deletable then
        [registerRoute handlers config .delete "/{row_id}" .none "delete_row"] else []) ++
      if config.bulkEnabled then
        [registerRoute handlers config .post "/bulk" .json "bulk_update"] else [])

/-- `app/routers/auth.py`. -/
def authRoutes : List (Route (Tables τ)) :=
  apiRouter "" [] [
    post "/login" [.verifyCsrf] (handlers "login_submit"),
    post "/logout" [.requireLogin, .verifyCsrf] (handlers "logout")]

/-- `app/routers/onboarding.py`. -/
def onboardingRoutes : List (Route (Tables τ)) :=
  apiRouter "/onboarding" [.requireLogin] [
    post "/scope" [.requireWriteAccess, .verifyCsrf] (handlers "submit_scope"),
    post "/generate-starter-controls"
      [.requireWriteAccess, .verifyCsrf] (handlers "generate_starter_controls")]

/-- `app/routers/frameworks.py`. -/
def frameworksRoutes : List (Route (Tables τ)) :=
  apiRouter "/frameworks" [.requireLogin] [
    post "/adoptions/{catalog_family}/upgrade"
      [.requireWriteAccess, .verifyCsrf] (handlers "upgrade_framework_adoption_route"),
    post "" [.requireWriteAccess, .verifyCsrf] (handlers "create_framework"),
    post "/{framework_id}/edit" [.requireWriteAccess, .verifyCsrf] (handlers "update_framework"),
    post "/{framework_id}/requirements"
      [.requireWriteAccess, .verifyCsrf] (handlers "create_requirement"),
    post "/{framework_id}/import"
      [.requireWriteAccess, .verifyCsrf] (handlers "import_requirements"),
    post "/{framework_id}/requirements/{requirement_id}/assessment"
      [.requireWriteAccess, .verifyCsrf] (handlers "update_assessment"),
    post "/{framework_id}/requirements/{requirement_id}/notes"
      [.requireWriteAccess, .verifyCsrf] (handlers "add_note")]

/-- `app/routers/controls.py`. -/
def controlsRoutes : List (Route (Tables τ)) :=
  apiRouter "/controls" [.requireLogin] [
    post "/{control_id}/owner" [.requireWriteAccess, .verifyCsrf] (handlers "set_control_owner"),
    post "/{control_id}/occurrences/generate"
      [.requireWriteAccess, .verifyCsrf] (handlers "generate_control_occurrences"),
    post "/{control_id}/occurrences"
      [.requireWriteAccess, .verifyCsrf] (handlers "create_control_occurrence"),
    post "/{control_id}/mappings" [.requireWriteAccess, .verifyCsrf] (handlers "add_mapping")]

/-- `app/routers/control_periods.py`. -/
def controlPeriodsRoutes : List (Route (Tables τ)) :=
  apiRouter "/control-periods" [.requireLogin] [
    post "" [.requireAdmin, .verifyCsrf] (handlers "create_control_period"),
    post "/{period_id}/activate" [.requireAdmin, .verifyCsrf] (handlers "activate_control_period"),
    post "/{period_id}/close" [.requireAdmin, .verifyCsrf] (handlers "close_control_period"),
    post "/{period_id}/generate-occurrences"
      [.requireAdmin, .verifyCsrf] (handlers "generate_period_occurrences")]

/-- `app/routers/occurrences.py`. -/
def occurrencesRoutes : List (Route (Tables τ)) :=
  apiRouter "/occurrences" [.requireLogin] [
    post "/{occurrence_id}/perform" [.requireWriteAccess, .verifyCsrf] (handlers "perform")]

/-- `app/routers/control_tests.py`. -/
def controlTestsRoutes : List (Route (Tables τ)) :=
  apiRouter "/control-tests" [.requireLogin] [
    post "/populations" [.requireWriteAccess, .verifyCsrf] (handlers "create_population"),
    post "/populations/{population_id}/samples"
      [.requireWriteAccess, .verifyCsrf] (handlers "create_sample"),
    post "" [.requireWriteAccess, .verifyCsrf] (handlers "create_control_test"),
    post "/{test_id}/link-evidence"
      [.requireWriteAccess, .verifyCsrf] (handlers "link_evidence_route")]

/-- `app/routers/findings.py`. -/
def findingsRoutes : List (Route (Tables τ)) :=
  apiRouter "/findings" [.requireLogin] [
    post "" [.requireWriteAccess, .verifyCsrf] (handlers "create_finding"),
    post "/{finding_id}/remediation-updates"
      [.requireWriteAccess, .verifyCsrf] (handlers "create_remediation_update"),
    post "/{finding_id}/request-retest"
      [.requireWriteAccess, .verifyCsrf] (handlers "request_retest_route"),
    post "/{finding_id}/record-retest"
      [.requireWriteAccess, .verifyCsrf] (handlers "record_retest_route"),
    post "/{finding_id}/close" [.requireWriteAccess, .verifyCsrf] (handlers "close_finding_route")]

/-- `app/routers/policies.py`. -/
def policiesRoutes : List (Route (Tables τ)) :=
  apiRouter "/policies" [.requireLogin] [
    post "" [.requireWriteAccess, .verifyCsrf] (handlers "create_policy"),
    post "/{policy_id}" [.requireWriteAccess, .verifyCsrf] (handlers "update_policy"),
    post "/{policy_id}/versions"
      [.requireWriteAccess, .verifyCsrf] (handlers "upload_policy_version"),
    post "/{policy_id}/retire" [.requireWriteAccess, .verifyCsrf] (handlers "retire_policy"),
    post "/{policy_id}/versions/{version_id}/submit-for-review"
      [.requireWriteAccess, .verifyCsrf] (handlers "submit_version_for_review"),
    post "/{policy_id}/versions/{version_id}/review"
      [.requireWriteAccess, .verifyCsrf] (handlers "review_policy_version"),
    post "/{policy_id}/versions/{version_id}/make-effective"
      [.requireWriteAccess, .verifyCsrf] (handlers "make_policy_version_effective"),
    post "/{policy_id}/versions/{version_id}/withdraw"
      [.requireWriteAccess, .verifyCsrf] (handlers "withdraw_policy_version"),
    post "/{policy_id}/control-mappings"
      [.requireWriteAccess, .verifyCsrf] (handlers "add_control_mapping"),
    post "/{policy_id}/drive-link" [.requireAdmin, .verifyCsrf] (handlers "link_drive_file"),
    post "/{policy_id}/drive-refresh"
      [.requireAdmin, .verifyCsrf] (handlers "refresh_drive_metadata"),
    post "/{policy_id}/drive-capture"
      [.requireAdmin, .verifyCsrf] (handlers "capture_drive_version"),
    post "/{policy_id}/drive-approvals"
      [.requireAdmin, .verifyCsrf] (handlers "sync_drive_approvals")]

/-- `app/routers/risks.py`. -/
def risksRoutes : List (Route (Tables τ)) :=
  apiRouter "/risks" [.requireLogin] [
    post "" [.requireWriteAccess, .verifyCsrf] (handlers "create_risk"),
    post "/import" [.requireWriteAccess, .verifyCsrf] (handlers "import_risks")]

/-- `app/routers/people.py`. -/
def peopleRoutes : List (Route (Tables τ)) :=
  apiRouter "/people" [.requireLogin] [
    post "" [.requireWriteAccess, .verifyCsrf] (handlers "create_person"),
    post "/sync-workspace-directory"
      [.requireAdmin, .verifyCsrf] (handlers "sync_workspace_directory"),
    post "/{person_id}/edit" [.requireWriteAccess, .verifyCsrf] (handlers "update_person")]

/-- `app/routers/vendor_systems.py`. -/
def vendorSystemsRoutes : List (Route (Tables τ)) :=
  apiRouter "/vendors" [.requireLogin] [
    post "" [.requireWriteAccess, .verifyCsrf] (handlers "create_vendor"),
    post "/{vendor_id}/edit" [.requireWriteAccess, .verifyCsrf] (handlers "update_vendor"),
    post "/{vendor_id}/roster"
      [.requireWriteAccess, .verifyCsrf] (handlers "create_roster_snapshot"),
    post "/{vendor_id}/roster/rows/{row_id}/link"
      [.verifyCsrf, .requireAdmin] (handlers "link_roster_row")]

/-- `app/routers/google_drive.py`. -/
def googleDriveRoutes : List (Route (Tables τ)) :=
  apiRouter "/connectors/google-drive" [.requireLogin] [
    post "/disconnect" [.requireAdmin, .verifyCsrf] (handlers "disconnect")]

/-- `app/routers/aws_connector.py`. -/
def awsConnectorRoutes : List (Route (Tables τ)) :=
  apiRouter "/connectors/aws" [.requireLogin] [
    post "" [.requireAdmin, .verifyCsrf] (handlers "save_connection"),
    post "/test" [.requireAdmin, .verifyCsrf] (handlers "run_test_connection"),
    post "/run-checks" [.requireAdmin, .verifyCsrf] (handlers "run_checks")]

/-- `app/routers/connections.py`. -/
def connectionsRoutes : List (Route (Tables τ)) :=
  apiRouter "/connections" [.requireAdmin] [
    post "" [.verifyCsrf] (handlers "create_connection"),
    post "/{connection_id}/edit" [.verifyCsrf] (handlers "update_connection"),
    post "/{connection_id}/delete" [.verifyCsrf] (handlers "delete_connection"),
    post "/{connection_id}/test" [.verifyCsrf] (handlers "test_connection_route")]

/-- `app/routers/evidence.py`. -/
def evidenceRoutes : List (Route (Tables τ)) :=
  apiRouter "/evidence" [.requireLogin] [
    post "/{evidence_id}/map-requirement"
      [.requireWriteAccess, .verifyCsrf] (handlers "map_requirement"),
    post "/{evidence_id}/map-control" [.requireWriteAccess, .verifyCsrf] (handlers "map_control")]

/-- `app/routers/evidence_artifacts.py`. -/
def evidenceArtifactsRoutes : List (Route (Tables τ)) :=
  apiRouter "/evidence-artifacts" [.requireLogin] [
    post "" [.requireWriteAccess, .verifyCsrf] (handlers "create_evidence_artifact"),
    post "/{artifact_id}/versions"
      [.requireWriteAccess, .verifyCsrf] (handlers "upload_evidence_artifact_version"),
    post "/{artifact_id}/versions/{version_id}/link-occurrence"
      [.requireWriteAccess, .verifyCsrf] (handlers "link_evidence_artifact_version_route")]

/-- `app/routers/audit_package.py`. -/
def auditPackageRoutes : List (Route (Tables τ)) :=
  apiRouter "/admin/audit-package" [.requireAdmin] [
    post "" [.requireAdmin, .verifyCsrf] (handlers "create_audit_package")]

/-- `app/routers/admin_users.py`. -/
def adminUsersRoutes : List (Route (Tables τ)) :=
  apiRouter "/admin/users" [.requireAdmin] [
    post "" [.requireAdmin, .verifyCsrf] (handlers "create_user"),
    post "/{user_id}/edit" [.requireAdmin, .verifyCsrf] (handlers "update_user")]

/-- `app/routers/admin_authentication.py`. -/
def adminAuthenticationRoutes : List (Route (Tables τ)) :=
  apiRouter "/admin/authentication" [.requireAdmin] [
    post "/google" [.requireAdmin, .verifyCsrf] (handlers "update_google_settings"),
    post "/oidc" [.requireAdmin, .verifyCsrf] (handlers "update_oidc_settings"),
    post "/oidc/identity-snapshot"
      [.requireAdmin, .verifyCsrf] (handlers "capture_oidc_identity_snapshot_route"),
    post "/oidc/roles" [.requireAdmin, .verifyCsrf] (handlers "create_oidc_role_mapping"),
    post "/oidc/roles/{mapping_id}/delete"
      [.requireAdmin, .verifyCsrf] (handlers "delete_oidc_role_mapping")]

/-- `app/routers/admin_api_tokens.py`. -/
def adminApiTokensRoutes : List (Route (Tables τ)) :=
  apiRouter "/admin/api-tokens" [.requireAdmin] [
    post "" [.requireAdmin, .verifyCsrf] (handlers "create_api_token_route"),
    post "/{token_id}/revoke" [.requireAdmin, .verifyCsrf] (handlers "revoke_api_token_route")]

/-- The routers that `create_app` includes, except that of the trust center. -/
def otherRoutes : List (Route (Tables τ)) :=
  [authRoutes handlers, onboardingRoutes handlers, frameworksRoutes handlers,
    controlsRoutes handlers, controlPeriodsRoutes handlers, occurrencesRoutes handlers,
    controlTestsRoutes handlers, findingsRoutes handlers, policiesRoutes handlers,
    risksRoutes handlers, peopleRoutes handlers, vendorSystemsRoutes handlers,
    googleDriveRoutes handlers, awsConnectorRoutes handlers, connectionsRoutes handlers,
    evidenceRoutes handlers, evidenceArtifactsRoutes handlers, auditPackageRoutes handlers,
    adminUsersRoutes handlers, adminAuthenticationRoutes handlers,
    adminApiTokensRoutes handlers].flatten ++
  registerConfigs.flatMap (buildRegisterRouter handlers)

/-- Every route of the application that changes something. -/
def routes : List (Route (Tables τ)) := trustCenterRoutes ++ otherRoutes handlers

end Routers

end MiniGrc.Routes
