import MiniGrc.App.AwsConnector
import MiniGrc.App.ConnectorLifecycle
import MiniGrc.App.Dates
import MiniGrc.App.Users

/-!
# Evidence snapshots

`build_evidence_snapshot` of `app/aws_connector.py` and `app/oidc_identity_evidence.py`. The
columns that they leave to their defaults are set as a flush sets them; SHA-256 and
`utcnow()` are parameters.
-/

namespace MiniGrc.EvidenceSnapshots

open AwsConnector Connectors Users

/-- `text[:n]`. -/
def slice (n : Nat) (text : String) : String := .ofList (text.toList.take n)

/-- A status as a string. -/
def statusText : EvidenceStatus → String
  | .pass => "pass"
  | .fail => "fail"
  | .warning => "warning"
  | .unknown => "unknown"

/-- `source_type`, from the part of the check key before the first underscore. -/
def sourceType (checkKey : String) : String :=
  if '_' ∈ checkKey.toList then "aws_" ++ .ofList (checkKey.toList.takeWhile (· ≠ '_')) else "aws"

variable (sha256 : String → String) (now : Time)

/-- `build_evidence_snapshot`. -/
def buildEvidenceSnapshot (result : AwsCheckResult) (connectionId : String) : EvidenceSnapshot :=
  let canonicalJson := (Json.dict result.normalizedPayload).sortedDumps
  { sourceType := sourceType result.checkKey
    sourceConnectionId := some connectionId
    checkKey := result.checkKey
    status := statusText result.status
    title := result.title
    summary := slice 2000 result.summary
    collectedAt := now
    collectorVersion := "1"
    normalizedPayloadJson := slice maxNormalizedPayloadChars canonicalJson
    rawPayloadSha256 := sha256 canonicalJson }

/-! ## Linked identities -/

/-- A row of `external_identities` with its `created_at`. -/
structure LinkedIdentity extends Users.ExternalIdentity where
  createdAt : Time

/-- The linked identities and the users; an identity has its user. -/
structure Directory where
  externalIdentities : Table LinkedIdentity
  users : Table User
  linked : ∀ (k : Id) identity, externalIdentities[k]? = some identity → identity.userId ∈ users

/-- A role source as a string. -/
def roleSourceText : RoleSource → String
  | .localRole => "local"
  | .oidcMapped => "oidc_mapped"

/-- The order of the query: by issuer and subject. -/
def LinkedIdentity.le (x y : LinkedIdentity) : Bool :=
  x.issuer < y.issuer || (x.issuer = y.issuer && x.subject ≤ y.subject)

/-- `identities`. -/
def Directory.identities (directory : Directory) : List LinkedIdentity :=
  (directory.externalIdentities.toList.map Prod.snd).insertionSort fun x y => x.le y

/-- An element of the population. -/
def LinkedIdentity.json (identity : LinkedIdentity) (user : User) : Json := .dict [
  ("issuer", .str identity.issuer),
  ("subject", .str identity.subject),
  ("user_id", .str (toString identity.userId)),
  ("email", .str user.email),
  ("role", .str user.role.text),
  ("role_source", .str (roleSourceText user.roleSource)),
  ("user_status", .str user.status.text),
  ("linked_at", .str (Time.isoformat identity.createdAt))]

/-- `population`; no identity is without its user. -/
def Directory.population (directory : Directory) : List Json :=
  directory.identities.filterMap fun identity =>
    directory.users[identity.userId]?.map identity.json

/-- The payload of the snapshot. -/
def Directory.payload (directory : Directory) : JsonDict :=
  [("population", .list directory.population)]

/-- `capture_oidc_identity_population_snapshot`. -/
def captureOidcIdentityPopulationSnapshot (directory : Directory) : EvidenceSnapshot :=
  let count := directory.population.length
  let canonicalJson := (Json.dict directory.payload).sortedDumps
  { sourceType := "oidc_identity_population"
    sourceConnectionId := none
    checkKey := "oidc_identity_population"
    status := "collected"
    title := s!"OIDC identity/role population ({count} linked identities)"
    summary := s!"{count} externally-linked identit" ++ (if count = 1 then "y" else "ies") ++
      " via generic OIDC, with each account's currently-mapped miniGRC role."
    collectedAt := now
    collectorVersion := "1"
    normalizedPayloadJson := slice maxNormalizedPayloadChars canonicalJson
    rawPayloadSha256 := sha256 canonicalJson }

end MiniGrc.EvidenceSnapshots
