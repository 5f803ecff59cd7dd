import MiniGrc.App.Registers

/-!
# The registers of the application

The configurations that the routers of `app/routers` build their registers from.
-/

namespace MiniGrc.Registers

/-- `REQUIREMENTS_REGISTER_CONFIG`, `app/routers/frameworks.py`. -/
def requirementsRegisterConfig : RegisterConfig where
  name := "framework-requirements"
  entityType := "framework_requirement"
  scopeField := some "framework_id"
  creatable := false
  deletable := false
  fields := [
    { name := "reference_code", type := .text, required := true, maxLength := some 32 },
    { name := "title", type := .text, required := true, maxLength := some 255 },
    { name := "summary", type := .text },
    { name := "display_order", type := .number },
    { name := "applicable", type := .text, readOnly := true },
    { name := "implementation_state", type := .text, readOnly := true },
    { name := "owner", type := .text, readOnly := true }]

/-- `CONTROL_STATUSES`. -/
def controlStatuses : List String := ["not_started", "in_progress", "implemented", "needs_review"]

/-- `REVIEW_FREQUENCIES`. -/
def reviewFrequencies : List String := ["monthly", "quarterly", "semiannual", "annual"]

/-- `CADENCE_TYPES`. -/
def cadenceTypes : List String := ["calendar", "event_driven"]

/-- `CONTROLS_REGISTER_CONFIG`, `app/routers/controls.py`. -/
def controlsRegisterConfig : RegisterConfig where
  name := "controls"
  entityType := "control"
  fields := [
    { name := "name", type := .text, required := true, maxLength := some 255 },
    { name := "owner", type := .text, maxLength := some 255 },
    { name := "status", type := .enum, choices := some controlStatuses },
    { name := "review_frequency", type := .enum, choices := some reviewFrequencies },
    { name := "description", type := .text },
    { name := "cadence_type", type := .enum, choices := some cadenceTypes },
    { name := "cadence_interval_months", type := .number },
    { name := "mapped_requirements", type := .number, readOnly := true }]

/-- `TRUST_CENTER_SECTION_VISIBILITY`. -/
def trustCenterSectionVisibility : List String := ["public", "restricted", "internal"]

/-- `SECTIONS_REGISTER_CONFIG`, `app/routers/trust_center.py`. -/
def sectionsRegisterConfig : RegisterConfig where
  name := "trust-center-sections"
  entityType := "trust_center_section"
  requireAdminFor := [.list, .create, .edit, .delete]
  fields := [
    { name := "title", type := .text, required := true, maxLength := some 255 },
    { name := "visibility", type := .enum, choices := some trustCenterSectionVisibility },
    { name := "display_order", type := .number },
    { name := "status", type := .text, readOnly := true },
    { name := "linked_framework_name", type := .text, readOnly := true },
    { name := "linked_policy_title", type := .text, readOnly := true },
    { name := "stale", type := .bool, readOnly := true }]

/-- `USERS_REGISTER_CONFIG`, `app/routers/admin_users.py`. -/
def usersRegisterConfig : RegisterConfig where
  name := "admin_users"
  entityType := "user"
  creatable := false
  deletable := false
  bulkEnabled := false
  requireAdminFor := [.list, .edit]
  fields := [
    { name := "email", type := .text, readOnly := true },
    { name := "role", type := .text, readOnly := true },
    { name := "role_source", type := .text, readOnly := true },
    { name := "status", type := .text, readOnly := true },
    { name := "created_at", type := .text, readOnly := true },
    { name := "google_linked", type := .bool, readOnly := true }]

/-- `JOBS_REGISTER_CONFIG`, `app/routers/admin_jobs.py`. -/
def jobsRegisterConfig : RegisterConfig where
  name := "admin_jobs"
  entityType := "job"
  creatable := false
  deletable := false
  bulkEnabled := false
  requireAdminFor := [.list, .edit]
  fields := [
    { name := "job_type", type := .text, readOnly := true },
    { name := "status", type := .text, readOnly := true },
    { name := "attempts", type := .number, readOnly := true },
    { name := "available_at", type := .text, readOnly := true },
    { name := "claimed_at", type := .text, readOnly := true },
    { name := "error_message", type := .text, readOnly := true }]

/-- `CONNECTIONS_REGISTER_CONFIG`, `app/routers/connections.py`. -/
def connectionsRegisterConfig : RegisterConfig where
  name := "connections"
  entityType := "external_connection"
  creatable := false
  deletable := false
  bulkEnabled := false
  requireAdminFor := [.list]
  fields := [
    { name := "name", type := .text, readOnly := true },
    { name := "db_type", type := .text, readOnly := true },
    { name := "host", type := .text, readOnly := true },
    { name := "database_name", type := .text, readOnly := true },
    { name := "enabled", type := .bool, readOnly := true },
    { name := "owner", type := .text, readOnly := true },
    { name := "last_test_status", type := .text, readOnly := true },
    { name := "last_tested_at", type := .text, readOnly := true }]

/-- The registers of the application. -/
def registerConfigs : List RegisterConfig :=
  [requirementsRegisterConfig, controlsRegisterConfig, sectionsRegisterConfig,
    usersRegisterConfig, jobsRegisterConfig, connectionsRegisterConfig]

end MiniGrc.Registers
