import MiniGrc.ForStd.Regex
import MiniGrc.App.ConnectorResults
import MiniGrc.App.Dates

/-!
# AI egress

`app/ai_egress.py`: the contexts of which provider requests are made, and the audit events
that log them. Ids are numbers.
-/

namespace MiniGrc.AiEgress

open Connectors (foldCase)

/-! ## The patterns -/

/-- A character of one of the classes. -/
def oneOf (p : Char → Bool) (others : List Char) : Regex Char :=
  .sat fun c => p c || others.contains c

/-- A character of a class under `re.IGNORECASE`, given by what characters are folded to. -/
def oneOfFolded (p : Char → Bool) (others : List Char) : Regex Char :=
  .sat fun c => p (foldCase c) || others.contains (foldCase c)

/-- A text under `re.IGNORECASE`, in lower case. -/
def folded (text : String) : Regex Char :=
  .seq (text.toList.map fun c => .sat fun c' => foldCase c' == c)

/-- A character that neither is a whitespace nor among the others. -/
def noneOf (others : List Char) : Regex Char :=
  .sat fun c => !isPySpace c && !others.contains c

/-- `\s`. -/
def space : Regex Char := .sat isPySpace

def isLowerOrDigit (c : Char) : Bool := c.isLower || c.isDigit

/-- `_EMAIL_LIKE_RE`. -/
def emailLikeRe : Regex Char :=
  .seq [oneOf Char.isAlphanum [],
    .star (oneOf Char.isAlphanum ['.', '_', '%', '+', '-']), oneOf (fun _ => false) ['@'],
    .atLeast (oneOf Char.isAlphanum ['.', '-']) 1, oneOf (fun _ => false) ['.'],
    .atLeast (oneOf Char.isAlpha []) 2]

/-- `_CREDENTIAL_LIKE_RE`. -/
def credentialLikeRe : Regex Char :=
  .any [
    .cat (folded "sk-") (.atLeast (oneOfFolded isLowerOrDigit ['_', '-']) 10),
    .seq [folded "gh", oneOfFolded (fun _ => false) ['p', 'o'], folded "_",
      .atLeast (oneOfFolded isLowerOrDigit []) 20],
    .cat (folded "github_pat_") (.atLeast (oneOfFolded isLowerOrDigit ['_']) 20),
    .cat (folded "aizasy") (.atLeast (oneOfFolded isLowerOrDigit ['_', '-']) 20),
    .seq [folded "xox", oneOfFolded (fun _ => false) ['b', 'a', 'p', 'r', 's'], folded "-",
      .atLeast (oneOfFolded isLowerOrDigit ['-']) 10],
    .cat (folded "akia") (.times (oneOfFolded isLowerOrDigit []) 16),
    .seq [folded "bearer", .atLeast space 1,
      .atLeast (oneOfFolded isLowerOrDigit ['.', '_', '-']) 1],
    .seq [folded "api", .opt (.alt space (oneOf (fun _ => false) ['_', '-'])), folded "key",
      .star space, oneOf (fun _ => false) [':', '='], .star space, .atLeast (noneOf []) 1],
    .seq [oneOfFolded Char.isLower [], .star (oneOfFolded isLowerOrDigit ['+', '.', '-']),
      folded "://", .atLeast (noneOf [':', '@', '/']) 1, folded ":",
      .atLeast (noneOf ['@', '/']) 1, folded "@"]]

/-- `_scrub_string`. -/
def scrubString (value : String) : String :=
  if credentialLikeRe.search value.toList then "[redacted-credential-like-value]"
  else if emailLikeRe.search value.toList then "[redacted-email-like-value]"
  else value

/-- `_scrub_string` of a value if it is a string. -/
def scrubValue : Json → Json
  | .str value => .str (scrubString value)
  | value => value

/-! ## Opt-ins and contexts -/

section

variable (category : Char → Char)

/-- `_is_meaningless_reason`, where `category c` is the first letter of
    `unicodedata.category(c)`. -/
def isMeaninglessReason (reason : String) : Bool :=
  isBlank (String.ofList (reason.toList.filter fun c => !(['C', 'Z'].contains (category c))))

/-- `AiEgressOptIn`. -/
structure AiEgressOptIn where
  actor : String
  reason : String
  meaningful : isMeaninglessReason category reason = false

end

/-- `AiPromptContext`. A value of `fields` that `json` cannot write is given by its `str()`,
    which `json.dumps(..., default=str)` writes for it. -/
structure AiPromptContext where
  entityType : String
  entityId : Id
  fields : JsonDict
  includedFreeText : Bool
  optInActor : Option String := none
  optInReason : Option String := none

variable {category : Char → Char}

/-- `_context`. -/
def context (entityType : String) (entityId : Id) (fields : JsonDict)
    (optIn : Option (AiEgressOptIn category)) : AiPromptContext where
  entityType
  entityId
  fields := fields.map fun field => (field.1, scrubValue field.2)
  includedFreeText := optIn.isSome
  optInActor := optIn.map (·.actor)
  optInReason := optIn.map (·.reason)

/-! ## The projections -/

/-- The columns of an `evidence_artifact_versions` row that are read. -/
structure EvidenceArtifactVersion where
  versionNumber : Nat
  mediaType : String
  byteSize : Nat
  sha256 : String
  capturedAt : DateTime
  sourceType : String

/-- An `evidence_artifacts` row with its versions, the latest first. -/
structure EvidenceArtifact where
  id : Id
  title : String
  description : String
  versions : List EvidenceArtifactVersion

/-- `project_evidence_artifact`. -/
def projectEvidenceArtifact (artifact : EvidenceArtifact)
    (optIn : Option (AiEgressOptIn category)) : AiPromptContext :=
  let latest := artifact.versions.head?
  let fields : JsonDict := [
    ("title", .str artifact.title),
    ("version_count", .int artifact.versions.length),
    ("latest_version_number", (latest.map fun v => .int v.versionNumber).getD .null),
    ("media_type", .ofOption (latest.map (·.mediaType))),
    ("byte_size", (latest.map fun v => .int v.byteSize).getD .null),
    ("sha256", .ofOption (latest.map (·.sha256))),
    ("captured_at", .ofOption (latest.map (·.capturedAt.isoformat))),
    ("source_type", .ofOption (latest.map (·.sourceType)))]
  let fields := if optIn.isSome then
      fields ++ [("description", .str artifact.description)]
    else fields
  context "evidence_artifact" artifact.id fields optIn

/-- The columns of a `control_occurrences` row that are read, and the name of its control. -/
structure ControlOccurrence where
  id : Id
  controlName : Option String
  origin : String
  dueAt : Option DateTime
  performedAt : Option DateTime
  responsiblePersonId : Option Id
  scopeNote : String
  evidenceNote : String

/-- `project_control_occurrence`. -/
def projectControlOccurrence (occurrence : ControlOccurrence)
    (optIn : Option (AiEgressOptIn category)) : AiPromptContext :=
  let fields : JsonDict := [
    ("control_name", .ofOption occurrence.controlName),
    ("origin", .str occurrence.origin),
    ("due_at", .ofOption (occurrence.dueAt.map DateTime.isoformat)),
    ("performed_at", .ofOption (occurrence.performedAt.map DateTime.isoformat)),
    ("has_responsible_owner", .bool occurrence.responsiblePersonId.isSome)]
  let fields := if optIn.isSome then
      fields ++ [("scope_note", .str occurrence.scopeNote),
        ("evidence_note", .str occurrence.evidenceNote)]
    else fields
  context "control_occurrence" occurrence.id fields optIn

/-- The columns of a `findings` row that are read. -/
structure Finding where
  id : Id
  title : String
  severity : String
  status : String
  dueDate : Option Date
  ownerPersonId : Option Id
  description : String
  closureNote : String

/-- `project_finding`. -/
def projectFinding (finding : Finding) (optIn : Option (AiEgressOptIn category)) :
    AiPromptContext :=
  let fields : JsonDict := [
    ("title", .str finding.title),
    ("severity", .str finding.severity),
    ("status", .str finding.status),
    ("due_date", .ofOption (finding.dueDate.map Date.isoformat)),
    ("has_owner", .bool finding.ownerPersonId.isSome)]
  let fields := if optIn.isSome then
      fields ++ [("description", .str finding.description),
        ("closure_note", .str finding.closureNote)]
    else fields
  context "finding" finding.id fields optIn

/-- The columns of a `policies` row that are read. -/
structure Policy where
  id : Id
  title : String
  status : String
  effectiveDate : Option Date
  nextReviewDate : Option Date
  owner : String
  description : String

/-- `project_policy`. -/
def projectPolicy (policy : Policy) (optIn : Option (AiEgressOptIn category)) :
    AiPromptContext :=
  let fields : JsonDict := [
    ("title", .str policy.title),
    ("status", .str policy.status),
    ("effective_date", .ofOption (policy.effectiveDate.map Date.isoformat)),
    ("next_review_date", .ofOption (policy.nextReviewDate.map Date.isoformat)),
    ("has_named_owner", .bool (policy.owner ≠ ""))]
  let fields := if optIn.isSome then
      fields ++ [("description", .str policy.description)]
    else fields
  context "policy" policy.id fields optIn

/-- The rows that have a projection. -/
inductive Entity
  | evidenceArtifact (artifact : EvidenceArtifact)
  | controlOccurrence (occurrence : ControlOccurrence)
  | finding (finding : Finding)
  | policy (policy : Policy)

/-- The `project_*` functions. -/
def project (optIn : Option (AiEgressOptIn category)) : Entity → AiPromptContext
  | .evidenceArtifact artifact => projectEvidenceArtifact artifact optIn
  | .controlOccurrence occurrence => projectControlOccurrence occurrence optIn
  | .finding finding => projectFinding finding optIn
  | .policy policy => projectPolicy policy optIn

/-! ## The audit trail -/

/-- A row of `audit_events`; the detail is the object whose `json.dumps` is stored. -/
structure AuditEvent where
  entityType : String
  entityId : Id
  action : String
  detail : JsonDict
  actor : String

/-- `record_ai_egress`: the audit events of the session with the new one. -/
def recordAiEgress (session : List AuditEvent) (context : AiPromptContext)
    (taskType providerName model actor : String) : List AuditEvent × AuditEvent :=
  let detailPayload : JsonDict := [
    ("task_type", .str (scrubString taskType)),
    ("provider_name", .str (scrubString providerName)),
    ("model", .str (scrubString model)),
    ("included_free_text", .bool context.includedFreeText),
    ("opt_in_actor", .ofOption context.optInActor),
    ("opt_in_reason", .ofOption context.optInReason),
    ("fields_sent", .dict context.fields)]
  let event : AuditEvent := {
    entityType := "ai_egress:" ++ context.entityType
    entityId := context.entityId
    action := "prompt_sent"
    detail := detailPayload
    actor := actor }
  (session ++ [event], event)

end MiniGrc.AiEgress
