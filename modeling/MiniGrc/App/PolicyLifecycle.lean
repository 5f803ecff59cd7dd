import MiniGrc.App.VersionLifecycle

/-!
# Policy versions

`app/policy_lifecycle.py` and the `PolicyVersion` table of `app/models.py`. A version's
row is a plain insert, and its lifecycle columns are a projection over the events of the
`policy_version` aggregate. No projector flushes: changes are held back until the next
append, the flush that ends `make_version_effective`, or the commit.

The file-capture columns other than `created_at` are left out: no modelled function
reads them.
-/

namespace MiniGrc.PolicyLifecycle

open Events VersionLifecycle

/-- A row of `policy_versions`; the key is its `id`. -/
structure PolicyVersion extends LifecycleColumns where
  policyId : Id
  versionNumber : Nat
  createdAt : Time
  deriving DecidableEq, Repr

instance : VersionRow PolicyVersion where
  parentId := PolicyVersion.policyId
  versionNumber := PolicyVersion.versionNumber
  columns := PolicyVersion.toLifecycleColumns
  setColumns v c := { v with toLifecycleColumns := c }
  parentId_setColumns _ _ := rfl
  versionNumber_setColumns _ _ := rfl
  columns_setColumns _ _ := rfl
  setColumns_columns _ := rfl
  setColumns_setColumns _ _ _ := rfl

/-- A row of `domain_events` of the type `policy_version`. -/
abbrev Event := DomainEvent Id LifecycleEvent String

/-- `POLICY_VERSION_PROJECTORS`. -/
def project (rows : Tracked PolicyVersion) (event : Event) :
    Except PyError (Tracked PolicyVersion) :=
  VersionLifecycle.project rows event event.body

/-- `_LIFECYCLE_DEFAULTS`, set on a version. -/
def withLifecycleDefaults (version : PolicyVersion) : PolicyVersion :=
  { version with toLifecycleColumns := {} }

/-- `_reset_policy_version_lifecycle`. -/
def resetPolicyVersionLifecycle (rows : Tracked PolicyVersion) :
    Except PyError (Tracked PolicyVersion) :=
  flush (rows.mapRows withLifecycleDefaults)

/-- The aggregate type `policy_version`. -/
def projection : VersionProjection PolicyVersion LifecycleEvent where
  flush := flush
  project := project
  reset := resetPolicyVersionLifecycle
  body := id
  lifecycleEvent := some

/-- `rebuild_policy_version_lifecycle_projection` and the commit. -/
def rebuildPolicyVersionLifecycleProjection (rows : Tracked PolicyVersion) (events : List Event) :
    Except PyError (Tracked PolicyVersion) :=
  rebuildAndCommit projection.toProjection rows events

/-! ## The commands -/

/-- A session on the policy tables. -/
abbrev PolicySession := Session (Tracked PolicyVersion) LifecycleEvent

/-- The commands on policy versions. -/
inductive Command
  /-- the plain insert of an uploaded or captured version -/
  | uploadVersion (id policyId : Id)
  | submitForReview (id : Id) (actor : Actor)
  | reviewVersion (id : Id) (decision comment : String) (actor : Actor)
  | makeVersionEffective (id : Id) (actor : Actor)
  | withdrawVersion (id : Id) (reason : String) (actor : Actor) (occurredAt : Option Time)

/-- `latest_version.version_number + 1`, or `1`. -/
def nextVersionNumber (s : PolicySession) (policyId : Id) : Nat :=
  match versionsOf s policyId with
  | [] => 1
  | latest :: _ => latest.2.versionNumber + 1

/-- The insert of a version, under a fresh `new_id()`; `created_at` defaults to the clock. -/
def uploadVersion (clock : Clock) (s : PolicySession) (id policyId : Id) : Outcome PolicySession :=
  if id ∈ s.rows.current then .raised s .integrityError
  else
    let version : PolicyVersion :=
      { policyId, versionNumber := nextVersionNumber s policyId,
        createdAt := clock.reading s.ticks }
    .returned { s with rows := s.rows.set id version, ticks := s.ticks + 1 }

def submitForReview (clock : Clock) (s : PolicySession) (id : Id) (actor : Actor) :
    Outcome PolicySession :=
  VersionLifecycle.submitForReview projection clock s id actor

def reviewVersion (clock : Clock) (s : PolicySession) (id : Id) (decision comment : String)
    (actor : Actor) : Outcome PolicySession :=
  VersionLifecycle.reviewVersion projection clock s id actor decision comment

/-- The flush at the end checks the final state against the unique index. -/
def makeVersionEffective (clock : Clock) (s : PolicySession) (id : Id) (actor : Actor) :
    Outcome PolicySession :=
  (VersionLifecycle.makeVersionEffective projection clock s id actor).andThen
    (flushSession projection.toProjection)

def withdrawVersion (clock : Clock) (s : PolicySession) (id : Id) (reason : String)
    (actor : Actor) (occurredAt : Option Time) : Outcome PolicySession :=
  VersionLifecycle.withdrawVersion projection clock s id actor reason occurredAt

/-- Run a command. -/
def Command.run (clock : Clock) (s : PolicySession) : Command → Outcome PolicySession
  | .uploadVersion id policyId => PolicyLifecycle.uploadVersion clock s id policyId
  | .submitForReview id actor => PolicyLifecycle.submitForReview clock s id actor
  | .reviewVersion id decision comment actor =>
    PolicyLifecycle.reviewVersion clock s id decision comment actor
  | .makeVersionEffective id actor => PolicyLifecycle.makeVersionEffective clock s id actor
  | .withdrawVersion id reason actor occurredAt =>
    PolicyLifecycle.withdrawVersion clock s id reason actor occurredAt

/-- The `occurred_at` that a command passes on. -/
def Command.occurredAt : Command → Option Time
  | .withdrawVersion _ _ _ occurredAt => occurredAt
  | _ => none

/-- A request runs one command. -/
def step (clock : Clock) (s : PolicySession) (c : Command) : Option PolicySession :=
  some (request projection.toProjection (c.run clock) s)

end MiniGrc.PolicyLifecycle
