import MiniGrc.App.Events

/-!
# The manifest of a backup

The data of `app/backup.py`: the settings that it reads, the manifest of a backup and the
configuration checklist in it. A setting is kept as its text, under its field name; the
JSON text of a manifest is kept as the manifest.
-/

namespace MiniGrc.BackupRestore

/-- `Settings`, by field name. -/
structure Settings where
  value : String → String

namespace Settings

variable (settings : Settings)

/-- All the fields are set. -/
def allSet (fields : List String) : Bool := fields.all fun field => settings.value field ≠ ""

/-- `google_oidc_enabled`. -/
def googleOidcEnabled : Bool :=
  settings.allSet ["google_oidc_client_id", "google_oidc_client_secret", "public_base_url"]

/-- `oidc_enabled`. -/
def oidcEnabled : Bool :=
  settings.allSet ["oidc_issuer", "oidc_client_id", "oidc_client_secret", "public_base_url"]

/-- `google_drive_configured`. -/
def googleDriveConfigured : Bool :=
  settings.allSet
    ["google_drive_client_id", "google_drive_client_secret", "public_base_url", "encryption_key"]

/-- `evidence_repository_configured`. -/
def evidenceRepositoryConfigured : Bool :=
  settings.allSet ["s3_endpoint_url", "s3_bucket", "s3_access_key_id", "s3_secret_access_key"]

/-- `_is_postgres`. -/
def isPostgres : Bool := settings.value "database_url" ≠ ""

end Settings

/-- `EvidenceObjectRecord`. -/
structure EvidenceObjectRecord where
  objectKey : String
  byteSize : Nat
  sha256 : String
  deriving DecidableEq, Repr

/-- `BackupManifest`. -/
structure BackupManifest where
  createdAt : Time
  /-- `"sqlite"` or `"postgresql"` -/
  backend : String
  dbBackupFilename : String
  evidenceObjects : List EvidenceObjectRecord
  configSnapshot : List (String × String)
  requiredEnvVarsNotIncluded : List String
  deriving DecidableEq, Repr

/-- `_NON_SECRET_CONFIG_FIELDS`. -/
def nonSecretConfigFields : List String :=
  ["app_env", "log_level", "public_base_url", "max_upload_mb", "max_vendor_roster_rows",
    "session_ttl_hours", "session_cookie_secure", "s3_bucket", "s3_region", "s3_endpoint_url",
    "oidc_issuer", "oidc_display_name", "oidc_role_claim_name", "oidc_allowed_domains",
    "google_oidc_allowed_domains", "google_workspace_directory_enabled"]

/-- The flags of `_build_config_snapshot`, with the entries of
    `_SECRET_ENV_VAR_NAMES_BY_CONFIGURED_FLAG`. -/
def configuredFlags (settings : Settings) : List (String × Bool × List String) :=
  [("google_oidc_configured", settings.googleOidcEnabled,
      ["GRC_GOOGLE_OIDC_CLIENT_ID", "GRC_GOOGLE_OIDC_CLIENT_SECRET"]),
    ("oidc_configured", settings.oidcEnabled, ["GRC_OIDC_CLIENT_ID", "GRC_OIDC_CLIENT_SECRET"]),
    ("google_drive_configured", settings.googleDriveConfigured,
      ["GRC_GOOGLE_DRIVE_CLIENT_ID", "GRC_GOOGLE_DRIVE_CLIENT_SECRET"]),
    ("evidence_repository_configured", settings.evidenceRepositoryConfigured,
      ["GRC_S3_ACCESS_KEY_ID", "GRC_S3_SECRET_ACCESS_KEY"])]

/-- `_build_config_snapshot`: the snapshot, and the names of the secrets that it leaves out. -/
def buildConfigSnapshot (settings : Settings) : List (String × String) × List String :=
  let flags := configuredFlags settings
  (nonSecretConfigFields.map (fun field => (field, settings.value field)) ++
      flags.map (fun flag => (flag.1, if flag.2.1 then "true" else "false")),
    "GRC_ENCRYPTION_KEY" :: (flags.filter fun flag => flag.2.1).flatMap fun flag => flag.2.2)

/-- The manifest that `create_backup` writes. -/
def BackupManifest.ofObjects (settings : Settings) (createdAt : Time)
    (evidenceObjects : List EvidenceObjectRecord) : BackupManifest where
  createdAt := createdAt
  backend := if settings.isPostgres then "postgresql" else "sqlite"
  dbBackupFilename := if settings.isPostgres then "database.pgdump" else "database.sqlite3"
  evidenceObjects := evidenceObjects
  configSnapshot := (buildConfigSnapshot settings).1
  requiredEnvVarsNotIncluded := (buildConfigSnapshot settings).2

end MiniGrc.BackupRestore
