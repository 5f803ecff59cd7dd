import MiniGrc.App.ConnectorLifecycle
import MiniGrc.App.Users

/-!
# Directory syncs

`sync_directory_users` of `app/google_workspace_directory.py`, and the second way in for the same
users: `directory_users_to_connector_result` and `workspace_directory_manifest` of
`app/connectors/adapters.py`, for `ingest_identity_population`.
-/

namespace MiniGrc.Connectors

open Users (normalizeEmail)

/-- `DirectoryUser`. -/
structure DirectoryUser where
  externalId : String
  primaryEmail : String
  displayName : String
  suspended : Bool
  archived : Bool
  deriving DecidableEq, Repr

/-! ## The sync -/

section Sync

variable (lower : String → String) (newId : Nat → Id) (now : Time)

/-- One turn of the loop of `sync_directory_users`. -/
def syncUser (c : Counted) (user : DirectoryUser) : Counted :=
  let normalizedEmail := normalizeEmail lower user.primaryEmail
  if normalizedEmail = "" then c
  else
    let status := if user.suspended || user.archived then "suspended" else "active"
    match c.pending.personByEmail normalizedEmail with
    | none =>
      let person : Person :=
        { email := normalizedEmail
          displayName := .str user.displayName
          employmentStatus := status
          source := "google_workspace"
          externalId := .str user.externalId
          lastSyncedAt := some now }
      { c with
        pending :=
          { c.pending with
            newPeople := c.pending.newPeople ++ [(newId c.pending.newPeople.length, person)] }
        created := c.created + 1 }
    | some (id, person) =>
      let person :=
        { person with
          displayName :=
            if user.displayName ≠ "" then .str user.displayName else person.displayName
          employmentStatus := status
          source := "google_workspace"
          externalId := .str user.externalId
          lastSyncedAt := some now }
      { c with
        pending := { c.pending with people := c.pending.people.insert id person }
        updated := c.updated + 1 }

/-- `sync_directory_users`, in a session that holds nothing back. -/
def syncDirectoryUsers (facts : Facts) (users : List DirectoryUser) : Counted :=
  users.foldl (syncUser lower newId now) { pending := facts.pending }

end Sync

/-- A commit; `fits` says which values the columns of `people` hold. -/
def Pending.commit (fits : Person → Bool) (pending : Pending) (facts : Facts) : Option Facts :=
  if (∀ x ∈ pending.people.toList, fits x.2) ∧ ∀ x ∈ pending.newPeople, fits x.2 then
    pending.write facts
  else none

/-! ## The connector -/

/-- `workspace_directory_manifest`. -/
def workspaceDirectoryManifest : ConnectorManifest where
  connectorId := "google_workspace"
  capabilities := ["identity.population"]

/-- A user in the payload. -/
def DirectoryUser.payload (user : DirectoryUser) : JsonDict := [
  ("email", .str user.primaryEmail),
  ("display_name", .str user.displayName),
  ("suspended", .bool (user.suspended || user.archived)),
  ("external_id", .str user.externalId)]

/-- `directory_users_to_connector_result`. -/
def directoryUsersToConnectorResult (users : List DirectoryUser) (connectionId : String)
    (collectedAt : Time) : ConnectorResult where
  capability := "identity.population"
  checkKey := "directory_users"
  status := "pass"
  title := "Google Workspace Directory population"
  summary := toString users.length ++ " directory user(s) fetched"
  provenance := { sourceConnectionId := some connectionId, collectedAt := collectedAt }
  normalizedPayload := [("users", .list (users.map fun user => .dict user.payload))]

end MiniGrc.Connectors
