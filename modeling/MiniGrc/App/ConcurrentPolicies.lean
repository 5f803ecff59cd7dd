import MiniGrc.ForStd.Transactions
import MiniGrc.App.ConcurrentScope
import MiniGrc.App.Dependencies
import MiniGrc.App.PolicyLifecycle
import MiniGrc.App.TrustCenter

/-!
# Policies under concurrent requests

The requests of `app/routers/policies.py` that change policies or their versions, each in a
read-committed transaction of its own. A session keeps the rows that it has loaded: the checks
and the projectors work on them, and an `UPDATE` only sets the columns whose value differs from
the loaded one.

What a request writes is written when it commits. Its statements are executed before that, but
nobody sees them, and whoever would write the same row or index entry waits for the commit.
Files are left out: a request comes with what storing its file has given.
-/

namespace MiniGrc.ConcurrentPolicies

open Events VersionLifecycle PolicyLifecycle
open ConcurrentScope (written)
open Routes (Response)
open TrustCenter (Policy PolicyForm PolicyStatus)

/-- What is committed. -/
structure Tables where
  policies : Table Policy
  versions : Table PolicyVersion
  events : List Event
  /-- how often the clock has been read -/
  ticks : Nat

/-- A new deployment. -/
def Tables.initial : Tables := ⟨∅, ∅, [], 0⟩

/-- A session that has not written anything. -/
def Tables.session (t : Tables) : PolicySession := ⟨Tracked.clean t.versions, t.events, t.ticks⟩

/-! ## Updates -/

/-- The row of a policy after the `UPDATE` of a row read as `old` and left as `new`. -/
def writePolicy (old new current : Policy) : Policy where
  title := written old.title new.title current.title
  description := written old.description new.description current.description
  owner := written old.owner new.owner current.owner
  status := written old.status new.status current.status
  effectiveDate := written old.effectiveDate new.effectiveDate current.effectiveDate
  nextReviewDate := written old.nextReviewDate new.nextReviewDate current.nextReviewDate
  driveFileId := written old.driveFileId new.driveFileId current.driveFileId

/-- The columns of a version after such an `UPDATE`. -/
def writeColumns (old new current : LifecycleColumns) : LifecycleColumns where
  lifecycleStatus := written old.lifecycleStatus new.lifecycleStatus current.lifecycleStatus
  submittedBy := written old.submittedBy new.submittedBy current.submittedBy
  submittedAt := written old.submittedAt new.submittedAt current.submittedAt
  reviewedBy := written old.reviewedBy new.reviewedBy current.reviewedBy
  reviewedAt := written old.reviewedAt new.reviewedAt current.reviewedAt
  reviewDecision := written old.reviewDecision new.reviewDecision current.reviewDecision
  reviewComment := written old.reviewComment new.reviewComment current.reviewComment
  effectiveAt := written old.effectiveAt new.effectiveAt current.effectiveAt
  supersededAt := written old.supersededAt new.supersededAt current.supersededAt
  supersededByVersionId :=
    written old.supersededByVersionId new.supersededByVersionId current.supersededByVersionId
  withdrawnAt := written old.withdrawnAt new.withdrawnAt current.withdrawnAt
  withdrawnReason := written old.withdrawnReason new.withdrawnReason current.withdrawnReason

/-! ## Appends -/

/-- An `append_and_project`, with the columns of the version as the request has loaded them. -/
structure Append where
  versionId : Id
  loaded : LifecycleColumns
  event : LifecycleEvent
  actor : Actor

/-- `POLICY_VERSION_PROJECTORS`, on the row that the request has loaded. -/
def Append.projection (a : Append) : Projection (Tracked PolicyVersion) LifecycleEvent :=
  { PolicyLifecycle.projection.toProjection with
    project := fun rows event =>
      match rows.current[event.aggregate]? with
      | none => .error .attributeError
      | some version =>
        let columns := a.loaded.apply event.body event.occurredAt event.actorId
        .ok (rows.set event.aggregate { version with
          toLifecycleColumns := writeColumns a.loaded columns version.toLifecycleColumns }) }

/-- What is passed to it. -/
def Append.args (a : Append) : AppendArgs Id LifecycleEvent String where
  aggregate := a.versionId
  body := a.event
  actorType := a.actor.actorType
  actorId := a.actor.actorId

/-- The appends of a request, one after the other. -/
def appendAll (clock : Clock) : List Append → PolicySession → Outcome PolicySession
  | [], s => .returned s
  | a :: rest, s =>
    (appendAndProject a.projection clock s a.args).andThen (appendAll clock rest)

/-! ## Changes -/

/-- The flush at the end, and the commit. -/
def Tables.commit (t : Tables) (o : Outcome PolicySession) : Except PyError Tables :=
  match o.andThen (flushSession PolicyLifecycle.projection.toProjection) with
  | .raised _ e => .error e
  | .returned s => .ok { t with versions := s.rows.current, events := s.events, ticks := s.ticks }

/-- The insert of a version; `created_at` defaults to the clock. -/
def Tables.insertVersion (clock : Clock) (t : Tables) (id policyId : Id) (versionNumber : Nat) :
    Except PyError Tables :=
  if id ∈ t.versions ∨ policyId ∉ t.policies then .error .integrityError
  else
    let version : PolicyVersion := { policyId, versionNumber, createdAt := clock.reading t.ticks }
    t.commit (.returned { t.session with
      rows := t.session.rows.set id version, ticks := t.ticks + 1 })

/-- The `UPDATE` of a policy. -/
def Tables.updatePolicy (t : Tables) (policyId : Id) (old new : Policy) : Tables :=
  { t with policies := t.policies.alter policyId (Option.map (writePolicy old new)) }

/-- What a request commits. -/
inductive Change
  | none
  /-- a policy, with a first version or without one -/
  | create (policyId : Id) (policy : Policy) (versionId : Option Id)
  /-- a policy, as it was loaded and as it is left -/
  | update (policyId : Id) (loaded policy : Policy)
  | addVersion (versionId policyId : Id) (versionNumber : Nat)
  | append (appends : List Append)
  /-- a policy, as it was loaded, with its effective version -/
  | retire (policyId : Id) (loaded : Policy)
      (effective : Option { x : Id × PolicyVersion // x.2.lifecycleStatus = .effective })
      (userId : String)

/-- The `withdraw_version` of `retire_policy`. -/
def withdrawal (x : Id × PolicyVersion) (userId : String) : Append where
  versionId := x.1
  loaded := x.2.toLifecycleColumns
  event := .withdrawn "Policy retired"
  actor := { actorId := some userId }

/-- A change in the database. -/
def Change.apply (clock : Clock) : Change → Tables → Except PyError Tables
  | .none, t => .ok t
  | .create policyId policy versionId, t =>
    if policyId ∈ t.policies then .error .integrityError
    else
      let created := { t with policies := t.policies.insert policyId policy }
      match versionId with
      | .none => .ok created
      | .some versionId => created.insertVersion clock versionId policyId 1
  | .update policyId loaded policy, t => .ok (t.updatePolicy policyId loaded policy)
  | .addVersion versionId policyId versionNumber, t =>
    t.insertVersion clock versionId policyId versionNumber
  | .append appends, t => t.commit (appendAll clock appends t.session)
  | .retire policyId loaded effective userId, t =>
    (t.updatePolicy policyId loaded { loaded with status := .retired }).commit
      (appendAll clock (effective.toList.map fun x => withdrawal x.1 userId) t.session)

/-! ## Requests -/

/-- A request in its transaction. -/
abbrev PolicyTxn := Txn Tables Change Response

/-- A request that ends without a change. -/
def answer (response : Response) : PolicyTxn := .finish .none response

/-- `/policies/{id}`. -/
def policyUrl (policyId : Id) : String := "/policies/" ++ toString policyId

/-- A change, and the redirect to the policy. -/
def done (policyId : Id) (change : Change) (message : String) : PolicyTxn :=
  .finish change (.redirectWithFlash (policyUrl policyId) message)

/-- A redirect to the policy without a change. -/
def refuse (policyId : Id) (message : String) : PolicyTxn := done policyId .none message

/-- `db.get(Policy, policy_id)`, or a 404. -/
def getPolicy (policyId : Id) (next : Policy → PolicyTxn) : PolicyTxn :=
  .query fun t =>
    match t.policies[policyId]? with
    | none => answer (.httpError 404 "Policy not found")
    | some policy => next policy

/-- `db.get(PolicyVersion, version_id)`, or a 404 unless it is one of the policy. -/
def getVersion (policyId versionId : Id) (next : PolicyVersion → PolicyTxn) : PolicyTxn :=
  .query fun t =>
    match t.versions[versionId]? with
    | none => answer (.httpError 404 "Policy version not found")
    | some version =>
      if version.policyId ≠ policyId then answer (.httpError 404 "Policy version not found")
      else next version

/-- What storing an upload has given: the id of the new version, or the text of the
    `UploadValidationError`. -/
abbrev Upload := Except String Id

/-- `create_policy`. -/
def createPolicy (policyId : Id) (form : PolicyForm) (file : Option Upload) : PolicyTxn :=
  if isBlank form.title then
    answer (.redirectWithFlash "/policies/new" "Title is required.")
  else
    let created := "Policy '" ++ form.policy.title ++ "' created."
    match file with
    | none => done policyId (.create policyId form.policy none) created
    | some (.error refusal) => answer (.redirectWithFlash "/policies/new" refusal)
    | some (.ok versionId) => done policyId (.create policyId form.policy (some versionId)) created

/-- `update_policy`: a status that is none of `POLICY_STATUSES` leaves the loaded one. -/
def updatePolicy (policyId : Id) (form : PolicyForm) : PolicyTxn :=
  getPolicy policyId fun policy =>
    if isBlank form.title then refuse policyId "Title is required."
    else
      done policyId (.update policyId policy { form.policy with
        status := (PolicyStatus.parse form.status).getD policy.status
        driveFileId := policy.driveFileId }) "Policy updated."

/-- `upload_policy_version`. -/
def uploadVersion (policyId : Id) (file : Upload) : PolicyTxn :=
  getPolicy policyId fun _ =>
    .query fun t =>
    let versionNumber := nextVersionNumber t.session policyId
    match file with
    | .error refusal => refuse policyId refusal
    | .ok versionId =>
      done policyId (.addVersion versionId policyId versionNumber)
        ("Version " ++ toString versionNumber ++ " uploaded.")

/-- `policy.effective_version`. -/
def effectiveVersion (t : Tables) (policyId : Id) :
    Option { x : Id × PolicyVersion // x.2.lifecycleStatus = .effective } :=
  ((versionsOf t.session policyId).filterMap fun x =>
    if h : x.2.lifecycleStatus = .effective then some ⟨x, h⟩ else none).head?

/-- `retire_policy`. -/
def retirePolicy (policyId : Id) (userId : String) : PolicyTxn :=
  getPolicy policyId fun policy =>
    .query fun t =>
    done policyId (.retire policyId policy (effectiveVersion t policyId) userId) "Policy retired."

/-- The append of a lifecycle command on a loaded version, and the redirect of its route. -/
def appended (policyId versionId : Id) (version : PolicyVersion) (event : LifecycleEvent)
    (userId : String) (before : List Append) (message : String) : PolicyTxn :=
  let actor : Actor := { actorId := some userId }
  done policyId (.append (before ++ [⟨versionId, version.toLifecycleColumns, event, actor⟩]))
    ("Version " ++ toString version.versionNumber ++ message)

/-- `submit_version_for_review`. -/
def submitForReview (policyId versionId : Id) (userId : String) : PolicyTxn :=
  getVersion policyId versionId fun version =>
    if version.lifecycleStatus ≠ .draft then
      refuse policyId ("Cannot submit for review from lifecycle_status=" ++
        version.lifecycleStatus.pyRepr ++ " (must be 'draft')")
    else
      appended policyId versionId version .submittedForReview userId [] " submitted for review."

/-- `review_policy_version`. -/
def reviewVersion (policyId versionId : Id) (decision comment userId : String) : PolicyTxn :=
  getVersion policyId versionId fun version =>
    if version.lifecycleStatus ≠ .inReview then
      refuse policyId ("Cannot review from lifecycle_status=" ++
        version.lifecycleStatus.pyRepr ++ " (must be 'in_review')")
    else
      match ReviewDecision.parse decision with
      | none => refuse policyId ("Invalid review decision: " ++ pyRepr decision)
      | some d =>
        if d = .rejected ∧ isBlank comment then
          refuse policyId "A comment explaining the rejection is required"
        else
          appended policyId versionId version (.reviewed d comment) userId []
            (" " ++ decision ++ ".")

/-- `make_policy_version_effective`: the previous effective version is loaded with the versions
    of the policy. -/
def makeVersionEffective (policyId versionId : Id) (userId : String) : PolicyTxn :=
  getVersion policyId versionId fun version =>
    if version.lifecycleStatus ≠ .approved then
      refuse policyId ("Cannot make effective from lifecycle_status=" ++
        version.lifecycleStatus.pyRepr ++ " (must be 'approved')")
    else
      .query fun t =>
      let superseded := (previousEffective t.session versionId version).toList.map fun x =>
        (⟨x.1, x.2.toLifecycleColumns, .superseded versionId, { actorId := some userId }⟩ : Append)
      appended policyId versionId version .madeEffective userId superseded " is now effective."

/-- `withdraw_policy_version`. -/
def withdrawVersion (policyId versionId : Id) (reason userId : String) : PolicyTxn :=
  getVersion policyId versionId fun version =>
    if version.lifecycleStatus ∉ [.draft, .inReview, .approved, .effective] then
      refuse policyId ("Cannot withdraw a version that is already " ++
        version.lifecycleStatus.pyRepr)
    else appended policyId versionId version (.withdrawn reason) userId [] " withdrawn."

/-- The requests, with what the environment contributes. -/
inductive Request
  | createPolicy (policyId : Id) (form : PolicyForm) (file : Option Upload)
  | updatePolicy (policyId : Id) (form : PolicyForm)
  | uploadVersion (policyId : Id) (file : Upload)
  | retirePolicy (policyId : Id) (userId : String)
  | submitForReview (policyId versionId : Id) (userId : String)
  | reviewVersion (policyId versionId : Id) (decision comment userId : String)
  | makeVersionEffective (policyId versionId : Id) (userId : String)
  | withdrawVersion (policyId versionId : Id) (reason userId : String)

/-- The transaction of a request. -/
def Request.serve : Request → PolicyTxn
  | .createPolicy policyId form file => ConcurrentPolicies.createPolicy policyId form file
  | .updatePolicy policyId form => ConcurrentPolicies.updatePolicy policyId form
  | .uploadVersion policyId file => ConcurrentPolicies.uploadVersion policyId file
  | .retirePolicy policyId userId => ConcurrentPolicies.retirePolicy policyId userId
  | .submitForReview policyId versionId userId =>
    ConcurrentPolicies.submitForReview policyId versionId userId
  | .reviewVersion policyId versionId decision comment userId =>
    ConcurrentPolicies.reviewVersion policyId versionId decision comment userId
  | .makeVersionEffective policyId versionId userId =>
    ConcurrentPolicies.makeVersionEffective policyId versionId userId
  | .withdrawVersion policyId versionId reason userId =>
    ConcurrentPolicies.withdrawVersion policyId versionId reason userId

/-- The application with its requests under way. -/
abbrev State (ι : Type) := Server ι Request Tables Change Response

/-- One statement of a request, or a request that comes in. -/
def step {ι : Type} [DecidableEq ι] (clock : Clock) :
    State ι → Server.Label ι Request → Option (State ι) :=
  Server.step Request.serve (Change.apply clock)

end MiniGrc.ConcurrentPolicies
