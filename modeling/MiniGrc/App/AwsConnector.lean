import Mathlib.Data.List.Basic
import MiniGrc.App.JsonValues

/-!
# AWS checks

`check_cloudtrail` and `check_iam` of `app/aws_connector.py`, over the answers that the calls of a
check get. A field that an answer leaves out is `none`.
-/

namespace MiniGrc.AwsConnector

/-! ## Calls -/

/-- What a call raises. -/
inductive AwsError
  /-- `ClientError`, with the code of its response and its text -/
  | clientError (code : Option String) (message : String)
  /-- `BotoCoreError`, with its text -/
  | botoCoreError (message : String)
  /-- any other exception -/
  | other
  deriving DecidableEq, Repr

/-- What ends a check without a result. -/
inductive Raised
  | keyError (key : String)
  | typeError
  | indexError
  | other
  deriving DecidableEq, Repr

/-- `EVIDENCE_STATUSES`. -/
inductive EvidenceStatus
  | pass
  | fail
  | warning
  | unknown
  deriving DecidableEq, Repr

/-- `AwsCheckResult`. -/
structure AwsCheckResult where
  checkKey : String
  status : EvidenceStatus
  title : String
  summary : String
  normalizedPayload : JsonDict := []

/-- The characters at which `str.splitlines()` splits. -/
def isLineBoundary (c : Char) : Bool :=
  c.toNat ∈ [0x0A, 0x0B, 0x0C, 0x0D, 0x1C, 0x1D, 0x1E, 0x85, 0x2028, 0x2029]

/-- `_safe_error`; an empty text has no line. -/
def safeError (message : String) : Except Raised String :=
  if message = "" then .error .indexError
  else .ok (.ofList ((message.toList.takeWhile fun c => !isLineBoundary c).take 300))

/-! ## CloudTrail -/

/-- A trail of `describe_trails`. -/
structure Trail where
  name : Option String
  trailArn : Option String
  isMultiRegionTrail : Option Bool
  includeGlobalServiceEvents : Option Bool
  logFileValidationEnabled : Option Bool
  s3BucketName : Option String
  deriving DecidableEq, Repr

/-- A listed trail, with the `IsLogging` that `get_trail_status` answers for it. -/
structure ListedTrail where
  trail : Trail
  getTrailStatus : Except AwsError (Option Bool)

/-- The answers that `check_cloudtrail` gets: the `trailList` of `describe_trails`. -/
structure CloudTrail where
  describeTrails : Except AwsError (Option (List ListedTrail))

/-- What the check keeps of a trail. -/
structure TrailSummary where
  name : Option String
  trailArn : Option String
  isLogging : Bool
  multiRegion : Bool
  includeGlobalServiceEvents : Bool
  logFileValidationEnabled : Bool
  destinationBucket : Option String
  deriving DecidableEq, Repr

/-- The mapping in the payload. -/
def TrailSummary.json (summary : TrailSummary) : Json := .dict [
  ("name", .ofOption summary.name),
  ("trail_arn", .ofOption summary.trailArn),
  ("is_logging", .bool summary.isLogging),
  ("multi_region", .bool summary.multiRegion),
  ("include_global_service_events", .bool summary.includeGlobalServiceEvents),
  ("log_file_validation_enabled", .bool summary.logFileValidationEnabled),
  ("destination_bucket", .ofOption summary.destinationBucket)]

/-- The summary of a trail whose status has been read, or was replaced. -/
def Trail.summary (trail : Trail) (isLogging : Option Bool) : TrailSummary where
  name := trail.name
  trailArn := trail.trailArn
  isLogging := isLogging.getD false
  multiRegion := trail.isMultiRegionTrail.getD false
  includeGlobalServiceEvents := trail.includeGlobalServiceEvents.getD false
  logFileValidationEnabled := trail.logFileValidationEnabled.getD false
  destinationBucket := trail.s3BucketName

/-- The status of a trail is read; an empty answer takes the place of a failed one. -/
def ListedTrail.summarize (listed : ListedTrail) : Except Raised TrailSummary :=
  match listed.trail.trailArn with
  | none => .error (.keyError "TrailARN")
  | some _ =>
    match listed.getTrailStatus with
    | .ok isLogging => .ok (listed.trail.summary isLogging)
    | .error .other => .error .other
    | .error _ => .ok (listed.trail.summary none)

/-- The loop over the trails: `trail_summaries` and `active_trail`. -/
def summarizeTrails : List ListedTrail → List TrailSummary → Option TrailSummary →
    Except Raised (List TrailSummary × Option TrailSummary)
  | [], trailSummaries, activeTrail => .ok (trailSummaries, activeTrail)
  | listed :: trails, trailSummaries, activeTrail => do
    let summary ← listed.summarize
    summarizeTrails trails (trailSummaries ++ [summary])
      (if summary.isLogging && activeTrail.isNone then some summary else activeTrail)

/-- The `warnings` about the active trail. -/
def TrailSummary.warnings (activeTrail : TrailSummary) : List String :=
  (if activeTrail.multiRegion then [] else ["not multi-region"]) ++
  (if activeTrail.includeGlobalServiceEvents then [] else ["excludes global service events"]) ++
  if activeTrail.logFileValidationEnabled then [] else ["log file validation disabled"]

/-- A result of the check. -/
def cloudtrailPosture (status : EvidenceStatus) (summary : String) (payload : JsonDict) :
    AwsCheckResult :=
  ⟨"cloudtrail_posture", status, "CloudTrail posture", summary, payload⟩

/-- `check_cloudtrail`. -/
def checkCloudtrail (client : CloudTrail) : Except Raised AwsCheckResult :=
  match client.describeTrails with
  | .error .other => .error .other
  | .error (.clientError _ message) | .error (.botoCoreError message) => do
    let text ← safeError message
    return cloudtrailPosture .unknown ("Could not read CloudTrail configuration: " ++ text) []
  | .ok trailList =>
    match trailList.getD [] with
    | [] =>
      .ok (cloudtrailPosture .fail "No CloudTrail trail exists in this account/region."
        [("trail_count", .int 0)])
    | trails => do
      let (trailSummaries, activeTrail) ← summarizeTrails trails [] none
      let payload : JsonDict := [("trails", .list (trailSummaries.map TrailSummary.json))]
      match activeTrail with
      | none =>
        return cloudtrailPosture .fail "A trail exists but none is actively logging." payload
      | some activeTrail =>
        let status := if activeTrail.warnings ≠ [] then .warning else .pass
        let summaryText := "Trail '" ++ activeTrail.name.getD "None" ++ "' is actively logging" ++
          if activeTrail.warnings ≠ [] then
            " (" ++ ", ".intercalate activeTrail.warnings ++ ")."
          else "."
        return cloudtrailPosture status summaryText
          (payload ++ [("active_trail", activeTrail.json)])

/-! ## IAM -/

/-- What is read of the `SummaryMap` of `get_account_summary`. -/
structure SummaryMap where
  accountMfaEnabled : Option Int
  accountAccessKeysPresent : Option Int
  deriving DecidableEq, Repr

/-- A `datetime`, in microseconds; a naive one is taken to be in UTC. -/
structure DateTime where
  micros : Int
  aware : Bool
  deriving DecidableEq, Repr

/-- An element of `AccessKeyMetadata`. -/
structure AccessKey where
  status : Option String
  createDate : Option DateTime
  deriving DecidableEq, Repr

/-- A user of `list_users`, with the number of `MFADevices` that `list_mfa_devices` answers and the
    `AccessKeyMetadata` of `list_access_keys`. -/
structure ListedUser where
  userName : Option String
  listMfaDevices : Except AwsError (Option Nat)
  listAccessKeys : Except AwsError (Option (List AccessKey))

/-- A page of `list_users`, with its `Users`. -/
structure Page where
  users : Option (List ListedUser)

/-- The answers that `check_iam` gets. The pages end at the first call that fails. -/
structure Iam where
  getAccountSummary : Except AwsError (Option SummaryMap)
  getAccountPasswordPolicy : Except AwsError Unit
  listUsers : List (Except AwsError Page)

/-- What the check keeps of a user. -/
structure UserSummary where
  username : String
  hasMfa : Bool
  activeAccessKeyCount : Nat
  oldestActiveKeyAgeDays : Option Int
  deriving DecidableEq, Repr

/-- The mapping in the payload. -/
def UserSummary.json (summary : UserSummary) : Json := .dict [
  ("username", .str summary.username),
  ("has_mfa", .bool summary.hasMfa),
  ("active_access_key_count", .int summary.activeAccessKeyCount),
  ("oldest_active_key_age_days", (summary.oldestActiveKeyAgeDays.map Json.int).getD .null)]

/-- `bool(value)` of a number that may be missing. -/
def truthy (value : Option Int) : Bool := value.getD 0 ≠ 0

/-- `ACCESS_KEY_AGE_WARNING_DAYS`. -/
def accessKeyAgeWarningDays : Int := 90

/-- The microseconds of a day. -/
def dayMicros : Int := 86400000000

/-- `min(k["CreateDate"] for k in active_keys)`, from the date of the first key on. Naive and aware
    dates do not compare. -/
def minCreateDate : DateTime → List AccessKey → Except Raised DateTime
  | oldest, [] => .ok oldest
  | oldest, key :: keys =>
    match key.createDate with
    | none => .error (.keyError "CreateDate")
    | some created =>
      if created.aware ≠ oldest.aware then .error .typeError
      else minCreateDate (if created.micros < oldest.micros then created else oldest) keys

/-- `oldest_key_age_days`. -/
def oldestKeyAgeDays (now : Int) : List AccessKey → Except Raised (Option Int)
  | [] => .ok none
  | key :: keys =>
    match key.createDate with
    | none => .error (.keyError "CreateDate")
    | some created => do
      let oldest ← minCreateDate created keys
      return some ((now - oldest.micros) / dayMicros)

/-- The `warnings` about a user. -/
def UserSummary.warnings (summary : UserSummary) : List String :=
  (if summary.hasMfa then [] else ["user '" ++ summary.username ++ "' has no MFA device"]) ++
  match summary.oldestActiveKeyAgeDays with
  | none => []
  | some days =>
    if accessKeyAgeWarningDays < days then
      ["user '" ++ summary.username ++ "' has an access key older than " ++
        toString accessKeyAgeWarningDays ++ " days"]
    else []

/-- What ends the enumeration of the users: a call that fails, or another exception. -/
inductive Stopped
  | failed (message : String)
  | raised (exc : Raised)
  deriving DecidableEq, Repr

/-- How an exception of a call ends the enumeration. -/
def AwsError.stopped : AwsError → Stopped
  | .clientError _ message | .botoCoreError message => .failed message
  | .other => .raised .other

/-- `status == "Active"`. -/
def AccessKey.isActive (key : AccessKey) : Bool := key.status = some "Active"

/-- What the body of the loop finds out about a user. -/
def ListedUser.summarize (now : Int) (user : ListedUser) : Except Stopped UserSummary :=
  match user.userName with
  | none => .error (.raised (.keyError "UserName"))
  | some username =>
    match user.listMfaDevices, user.listAccessKeys with
    | .error exc, _ => .error exc.stopped
    | .ok _, .error exc => .error exc.stopped
    | .ok mfaDevices, .ok accessKeys =>
      let activeKeys := (accessKeys.getD []).filter AccessKey.isActive
      match oldestKeyAgeDays now activeKeys with
      | .error exc => .error (.raised exc)
      | .ok oldest =>
        .ok
          { username := username
            hasMfa := mfaDevices.getD 0 ≠ 0
            activeAccessKeyCount := activeKeys.length
            oldestActiveKeyAgeDays := oldest }

/-- The users in the order in which the loop comes to them, and the calls for pages that fail. -/
def enumeration (pages : List (Except AwsError Page)) : List (Except AwsError ListedUser) :=
  pages.flatMap fun
    | .ok page => (page.users.getD []).map .ok
    | .error exc => [.error exc]

/-- The loop over the users: what it has found out, and what ends it. -/
def enumerateUsers (now : Int) : List (Except AwsError ListedUser) →
    List UserSummary × Option Stopped
  | [] => ([], none)
  | .error exc :: _ => ([], some exc.stopped)
  | .ok user :: users =>
    match user.summarize now with
    | .error stopped => ([], some stopped)
    | .ok summary =>
      let (rest, stopped) := enumerateUsers now users
      (summary :: rest, stopped)

/-- `password_policy_present`, and the `warnings` about the policy. -/
def passwordPolicy : Except AwsError Unit → Except Raised (Json × List String)
  | .ok () => .ok (.bool true, [])
  | .error (.clientError code message) =>
    if code = some "NoSuchEntity" then .ok (.bool false, ["no account password policy"])
    else do
      let text ← safeError message
      return (.null, ["could not read password policy: " ++ text])
  | .error (.botoCoreError message) => do
    let text ← safeError message
    return (.null, ["could not read password policy: " ++ text])
  | .error .other => .error .other

/-- The `warnings` about the end of the enumeration. -/
def stopWarnings : Option Stopped → Except Raised (List String)
  | none => .ok []
  | some (.failed message) => do
    let text ← safeError message
    return ["could not fully enumerate IAM users: " ++ text]
  | some (.raised exc) => .error exc

/-- The `failures` of the root account. -/
def SummaryMap.failures (summaryMap : SummaryMap) : List String :=
  (if truthy summaryMap.accountMfaEnabled then [] else ["root MFA disabled"]) ++
  if truthy summaryMap.accountAccessKeysPresent then ["root access keys present"] else []

/-- The status of the check and its text. -/
def iamVerdict (failures warnings : List String) : EvidenceStatus × String :=
  if failures ≠ [] then (.fail, "; ".intercalate failures)
  else if warnings ≠ [] then
    (.warning, "; ".intercalate (warnings.take 5) ++
      if 5 < warnings.length then "; and " ++ toString (warnings.length - 5) ++ " more" else "")
  else
    (.pass,
      "Root MFA enabled, no root access keys, all IAM users have MFA and recent access keys.")

/-- A result of the check. -/
def iamPosture (status : EvidenceStatus) (summary : String) (payload : JsonDict) : AwsCheckResult :=
  ⟨"iam_posture", status, "IAM posture", summary, payload⟩

/-- `check_iam`. -/
def checkIam (now : Int) (client : Iam) : Except Raised AwsCheckResult :=
  match client.getAccountSummary with
  | .error .other => .error .other
  | .error (.clientError _ message) | .error (.botoCoreError message) => do
    let text ← safeError message
    return iamPosture .unknown ("Could not read account summary: " ++ text) []
  | .ok none => .error (.keyError "SummaryMap")
  | .ok (some summaryMap) => do
    let (passwordPolicyPresent, policyWarnings) ← passwordPolicy client.getAccountPasswordPolicy
    let (usersSummary, stopped) := enumerateUsers now (enumeration client.listUsers)
    let lastWarnings ← stopWarnings stopped
    let warnings := policyWarnings ++ usersSummary.flatMap UserSummary.warnings ++ lastWarnings
    let (status, summaryText) := iamVerdict summaryMap.failures warnings
    return iamPosture status summaryText [
      ("root_mfa_enabled", .bool (truthy summaryMap.accountMfaEnabled)),
      ("root_access_keys_present", .bool (truthy summaryMap.accountAccessKeysPresent)),
      ("password_policy_present", passwordPolicyPresent),
      ("iam_user_count", .int usersSummary.length),
      ("users", .list (usersSummary.map UserSummary.json))]

end MiniGrc.AwsConnector
