import MiniGrc.App.JsonValues
import MiniGrc.App.PolicyStorage
import MiniGrc.App.Users

/-!
# Approvals of Drive files

`app/google_drive_approvals.py`, and `sync_drive_approvals` of `app/routers/policies.py` with
`get_db` around it. What the other side answers and what the standard library makes of a text
are parameters, and so is what the recursion limit of the interpreter lets through. A JSON
value is what `response.json()` returns.
-/

namespace MiniGrc.DriveApprovals

open PolicyStorage Users

/-- An exception. -/
inductive PyError
  | approvalsUnavailableError (message : String)
  | googleDriveError
  | attributeError (message : String)
  | recursionError
  /-- the database refuses a statement at the commit -/
  | databaseError
  | httpException (statusCode : Nat) (detail : String)
  deriving DecidableEq, Repr

/-! ## Tables -/

/-- A row of `policies`. -/
structure Policy where
  title : String
  driveFileId : Option String

/-- A row of `policy_versions`. -/
structure PolicyVersion where
  policyId : Id
  versionNumber : Nat

/-- A row of `policy_approval_snapshots`. -/
structure PolicyApprovalSnapshot where
  policyVersionId : Id
  externalApprovalId : String
  status : String
  initiator : String
  reviewerResponsesJson : String
  createTime : Option Time
  modifyTime : Option Time
  completeTime : Option Time
  dueTime : Option Time
  /-- as it is bound to the statement; nothing makes a string of it -/
  fileContentChangeBehavior : Json
  capturedAt : Time
  rawPayloadSha256 : String

/-- The database. -/
structure Database where
  policies : Table Policy
  policyVersions : Table PolicyVersion
  approvalSnapshots : List PolicyApprovalSnapshot
  auditEvents : List AuditEvent

/-! ## Parameters -/

/-- What the code relies on: `repr` of a string, SHA-256, `datetime.fromisoformat`, the values
    that `response.json()`, `json.dumps` and `str` go through without reaching the recursion
    limit, and the rows that the database takes. -/
structure Environment where
  reprString : String → String
  sha256 : String → String
  fromisoformat : String → Option Time
  loads : Json → Bool
  dumps : Json → Bool
  str : Json → Bool
  accepts : PolicyApprovalSnapshot → Bool

variable (env : Environment)

/-- What `httpx.get` and `response.json()` meet. -/
inductive Answer
  /-- an `httpx.HTTPError` -/
  | httpError (message : String)
  /-- no JSON text -/
  | malformed
  | json (payload : Json)

/-- The other side: the token, if the connection gives one, and the approvals endpoint, for a
    file and a token. -/
structure Service where
  accessToken : Option String
  endpoint : String → String → Answer

/-! ## Values -/

/-- `value.get(key)`; a mapping without the key gives `None`. -/
def get (value : Json) (key : String) : Except PyError Json :=
  match value with
  | .dict fields => .ok ((JsonDict.get? fields key).getD .null)
  | value => .error (.attributeError ("'" ++ value.typeName ++ "' object has no attribute 'get'"))

/-- `x or y`. -/
def either (x y : Json) : Json := if x.truthy then x else y

mutual

/-- `repr(value)`. -/
def reprJson : Json → String
  | .null => "None"
  | .bool value => if value then "True" else "False"
  | .int value => toString value
  | .float text =>
    -- `json` has other names for the floats that are not finite
    if text = "NaN" then "nan"
    else if text = "Infinity" then "inf"
    else if text = "-Infinity" then "-inf"
    else text
  | .str value => env.reprString value
  | .list items => "[" ++ ", ".intercalate (reprItems items) ++ "]"
  | .dict fields => String.singleton (Char.ofNat 123) ++ ", ".intercalate (reprFields fields) ++
      String.singleton (Char.ofNat 125)
termination_by structural value => value

/-- The elements of a list. -/
def reprItems : List Json → List String
  | [] => []
  | item :: items => reprJson item :: reprItems items
termination_by structural items => items

/-- The fields of a mapping. -/
def reprFields : List (String × Json) → List String
  | [] => []
  | field :: fields => reprField field :: reprFields fields
termination_by structural fields => fields

/-- A field of a mapping. -/
def reprField : String × Json → String
  | (key, value) => env.reprString key ++ ": " ++ reprJson value
termination_by structural field => field

end

/-- The text of `str(value)`. -/
def strJson : Json → String
  | .str value => value
  | value => reprJson env value

/-- `str(value)`. -/
def str (value : Json) : Except PyError String :=
  if env.str value then .ok (strJson env value) else .error .recursionError

/-- `json.dumps(value, sort_keys=True)`. -/
def dumpsSorted (value : Json) : Except PyError String :=
  if env.dumps value then .ok value.sortedDumps else .error .recursionError

/-- `json.dumps(value)`. -/
def dumps (value : Json) : Except PyError String :=
  if env.dumps value then .ok (.ofList value.compactChars) else .error .recursionError

/-! ## `app/google_drive_approvals.py` -/

/-- `fetch_approvals`, after the request. -/
def fetchApprovals (answer : Answer) : Except PyError (List Json) :=
  match answer with
  | .httpError message => .error (.approvalsUnavailableError message)
  | .malformed => .error (.approvalsUnavailableError "Malformed approvals response.")
  | .json payload =>
    if env.loads payload then do
      match ← get payload "approvals" with
      | .list approvals => .ok approvals
      | _ => .error (.approvalsUnavailableError "Unexpected approvals response shape.")
    else .error .recursionError

/-- `_parse_timestamp`. -/
def parseTimestamp : Json → Option Time
  | .str value => if value = "" then none else env.fromisoformat (replaceZ value)
  | _ => none

/-- `ParsedApproval`. -/
structure ParsedApproval where
  externalApprovalId : String
  status : String
  initiator : String
  reviewerResponsesJson : String
  createTime : Option Time
  modifyTime : Option Time
  completeTime : Option Time
  dueTime : Option Time
  fileContentChangeBehavior : Json
  rawPayloadSha256 : String

/-- `parse_approval`. -/
def parseApproval (raw : Json) : Except PyError ParsedApproval := do
  let id ← str env (either (either (← get raw "approvalId") (← get raw "id")) (.str ""))
  let externalId := stripText id
  if externalId = "" then
    .error (.approvalsUnavailableError "Approval record is missing an id.")
  else
    let canonicalJson ← dumpsSorted env raw
    let initiatingUser := either (← get raw "initiatingUser") (.dict [])
    let emailAddress ← get initiatingUser "emailAddress"
    let initiator := either (either emailAddress (← get raw "initiator")) (.str "")
    return {
      externalApprovalId := externalId
      status := ← str env (either (either (← get raw "state") (← get raw "status")) (.str ""))
      initiator := ← str env initiator
      reviewerResponsesJson := ← dumps env
        (either (either (← get raw "reviewers") (← get raw "responses")) (.list []))
      createTime := parseTimestamp env (← get raw "createTime")
      modifyTime := parseTimestamp env (← get raw "modifyTime")
      completeTime := parseTimestamp env (← get raw "completeTime")
      dueTime := parseTimestamp env (← get raw "dueTime")
      fileContentChangeBehavior := ← get raw "fileContentChangeBehavior"
      rawPayloadSha256 := env.sha256 canonicalJson }

/-! ## `sync_drive_approvals` -/

/-- The pair under which a snapshot is looked for. -/
def PolicyApprovalSnapshot.key (snapshot : PolicyApprovalSnapshot) : String × String :=
  (snapshot.externalApprovalId, snapshot.rawPayloadSha256)

/-- The same pair of a record. -/
def ParsedApproval.key (parsed : ParsedApproval) : String × String :=
  (parsed.externalApprovalId, parsed.rawPayloadSha256)

/-- The row that is added for a record. -/
def ParsedApproval.snapshot (parsed : ParsedApproval) (policyVersionId : Id) (now : Time) :
    PolicyApprovalSnapshot where
  policyVersionId := policyVersionId
  externalApprovalId := parsed.externalApprovalId
  status := parsed.status
  initiator := parsed.initiator
  reviewerResponsesJson := parsed.reviewerResponsesJson
  createTime := parsed.createTime
  modifyTime := parsed.modifyTime
  completeTime := parsed.completeTime
  dueTime := parsed.dueTime
  fileContentChangeBehavior := parsed.fileContentChangeBehavior
  capturedAt := now
  rawPayloadSha256 := parsed.rawPayloadSha256

/-- `policy.latest_version`. -/
def Database.latestVersion (db : Database) (policyId : Id) : Option (Id × PolicyVersion) :=
  ((db.policyVersions.toList.filter fun x => x.2.policyId = policyId).insertionSort
    fun x y => y.2.versionNumber ≤ x.2.versionNumber).head?

/-- `existing_hashes`. -/
def Database.existingHashes (db : Database) (policyVersionId : Id) : List (String × String) :=
  (db.approvalSnapshots.filter fun snapshot => snapshot.policyVersionId = policyVersionId).map
    PolicyApprovalSnapshot.key

/-- A turn of the loop: `existing_hashes` and the rows that have been added. -/
def syncRecord (policyVersionId : Id) (now : Time)
    (state : List (String × String) × List PolicyApprovalSnapshot) (raw : Json) :
    Except PyError (List (String × String) × List PolicyApprovalSnapshot) :=
  match parseApproval env raw with
  | .error (.approvalsUnavailableError _) => .ok state
  | .error e => .error e
  | .ok parsed =>
    if parsed.key ∈ state.1 then .ok state
    else .ok (state.1 ++ [parsed.key], state.2 ++ [parsed.snapshot policyVersionId now])

/-- A redirect to the page of the policy. -/
structure Flash where
  policyId : Id
  message : String
  kind : String := "success"

/-- The rows that a request has added to its session. -/
structure Added where
  approvalSnapshots : List PolicyApprovalSnapshot := []
  auditEvents : List AuditEvent := []

/-- A request of an admin. -/
structure Request where
  policyId : Id
  admin : String
  now : Time

/-- `get_access_token_for_active_connection` and `fetch_approvals`. -/
def Service.rawApprovals (service : Service) (fileId : String) : Except PyError (List Json) :=
  match service.accessToken with
  | none => .error .googleDriveError
  | some accessToken => fetchApprovals env (service.endpoint fileId accessToken)

/-- What is added behind the loop, and the redirect. -/
def conclude (request : Request) (policy : Policy) (targetId : Id) (targetVersion : PolicyVersion)
    (created : List PolicyApprovalSnapshot) : Added × Flash :=
  if created.length = 0 then ({}, ⟨request.policyId, "No new approval changes.", "success"⟩)
  else (
    { approvalSnapshots := created
      auditEvents := [{
        entityType := "policy_version"
        entityId := targetId
        action := "sync_drive_approvals"
        detail := s!"Captured {created.length} new approval snapshot(s) for " ++
          s!"'{policy.title}' v{targetVersion.versionNumber}"
        actor := request.admin }] },
    ⟨request.policyId, s!"Synced approvals: {created.length} new snapshot(s).", "success"⟩)

/-- `sync_drive_approvals`. -/
def syncDriveApprovals (service : Service) (request : Request) (db : Database) :
    Except PyError (Added × Flash) :=
  let notLinked := PyError.httpException 404 "Policy is not linked to a Drive file"
  match db.policies[request.policyId]? with
  | none => .error notLinked
  | some policy =>
    match policy.driveFileId with
    | none => .error notLinked
    | some fileId =>
      if fileId = "" then .error notLinked
      else match db.latestVersion request.policyId with
      | none => .ok ({}, ⟨request.policyId, "Capture a version before syncing approvals.", "error"⟩)
      | some (targetId, targetVersion) =>
        match service.rawApprovals env fileId with
        | .error .googleDriveError | .error (.approvalsUnavailableError _) =>
          .ok ({}, ⟨request.policyId, "Approval data unavailable.", "error"⟩)
        | .error e => .error e
        | .ok rawApprovals => do
          let (_, created) ← rawApprovals.foldlM (syncRecord env targetId request.now)
            (db.existingHashes targetId, [])
          return conclude request policy targetId targetVersion created

/-- The rows of a session are added. -/
def Database.add (db : Database) (added : Added) : Database :=
  { db with
    approvalSnapshots := db.approvalSnapshots ++ added.approvalSnapshots
    auditEvents := db.auditEvents ++ added.auditEvents }

/-- A request with `get_db` around it. -/
def handle (service : Service) (request : Request) (db : Database) :
    Database × Except PyError Flash :=
  match syncDriveApprovals env service request db with
  | .error e => (db, .error e)
  | .ok (added, flash) =>
    if added.approvalSnapshots.all env.accepts then (db.add added, .ok flash)
    else (db, .error .databaseError)

end MiniGrc.DriveApprovals
