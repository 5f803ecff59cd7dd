import MiniGrc.App.Projection

/-!
# The version lifecycle

`app/policy_lifecycle.py` and `app/control_definition_lifecycle.py` run one lifecycle,

    draft → in_review → approved → effective → superseded
      ↑________|
                 (withdrawn from any of the first four)

over two tables, with the same columns, events, checks and messages. This module holds
what they share, over a row type that knows its parent (the policy or the control); each
of the two keeps its own table, projectors and reset.
-/

namespace MiniGrc

open Events

/-- `POLICY_VERSION_LIFECYCLE_STATUSES`, `CONTROL_DEFINITION_LIFECYCLE_STATUSES`. -/
inductive LifecycleStatus
  | draft
  | inReview
  | approved
  | effective
  | superseded
  | withdrawn
  deriving DecidableEq, Repr

/-- `{status!r}`. -/
def LifecycleStatus.pyRepr : LifecycleStatus → String
  | .draft => "'draft'"
  | .inReview => "'in_review'"
  | .approved => "'approved'"
  | .effective => "'effective'"
  | .superseded => "'superseded'"
  | .withdrawn => "'withdrawn'"

/-- The decisions of a review. -/
inductive ReviewDecision
  | approved
  | rejected
  deriving DecidableEq, Repr

/-- The decision that a caller's string names. -/
def ReviewDecision.parse (decision : String) : Option ReviewDecision :=
  if decision = "approved" then some .approved
  else if decision = "rejected" then some .rejected
  else none

/-- The lifecycle columns, with `_LIFECYCLE_DEFAULTS`. -/
structure LifecycleColumns where
  lifecycleStatus : LifecycleStatus := .draft
  submittedBy : Option String := none
  submittedAt : Option Time := none
  reviewedBy : Option String := none
  reviewedAt : Option Time := none
  reviewDecision : Option ReviewDecision := none
  reviewComment : String := ""
  effectiveAt : Option Time := none
  supersededAt : Option Time := none
  supersededByVersionId : Option Id := none
  withdrawnAt : Option Time := none
  withdrawnReason : String := ""
  deriving DecidableEq, Repr

/-- The lifecycle events, with their payloads. -/
inductive LifecycleEvent
  | submittedForReview
  | reviewed (decision : ReviewDecision) (comment : String)
  | madeEffective
  | superseded (supersededByVersionId : Id)
  | withdrawn (reason : String)
  deriving DecidableEq, Repr

/-! ## The projectors, on the columns -/

namespace LifecycleColumns

/-- `_project_submitted_for_review`. -/
def submittedForReview (c : LifecycleColumns) (occurredAt : Time) (actorId : Option String) :
    LifecycleColumns :=
  { c with lifecycleStatus := .inReview, submittedBy := actorId, submittedAt := some occurredAt }

/-- `_project_reviewed`. -/
def reviewed (c : LifecycleColumns) (decision : ReviewDecision) (comment : String)
    (occurredAt : Time) (actorId : Option String) : LifecycleColumns :=
  { c with
    reviewedBy := actorId
    reviewedAt := some occurredAt
    reviewDecision := some decision
    reviewComment := comment
    lifecycleStatus := if decision = .approved then .approved else .draft }

/-- `_project_made_effective`. -/
def madeEffective (c : LifecycleColumns) (occurredAt : Time) : LifecycleColumns :=
  { c with lifecycleStatus := .effective, effectiveAt := some occurredAt }

/-- `_project_superseded`. -/
def superseded (c : LifecycleColumns) (supersededByVersionId : Id) (occurredAt : Time) :
    LifecycleColumns :=
  { c with
    lifecycleStatus := .superseded
    supersededAt := some occurredAt
    supersededByVersionId := some supersededByVersionId }

/-- `_project_withdrawn`. -/
def withdrawn (c : LifecycleColumns) (reason : String) (occurredAt : Time) : LifecycleColumns :=
  { c with
    lifecycleStatus := .withdrawn, withdrawnAt := some occurredAt, withdrawnReason := reason }

/-- The projector of an event. -/
def apply (c : LifecycleColumns) (event : LifecycleEvent) (occurredAt : Time)
    (actorId : Option String) : LifecycleColumns :=
  match event with
  | .submittedForReview => c.submittedForReview occurredAt actorId
  | .reviewed decision comment => c.reviewed decision comment occurredAt actorId
  | .madeEffective => c.madeEffective occurredAt
  | .superseded w => c.superseded w occurredAt
  | .withdrawn reason => c.withdrawn reason occurredAt

end LifecycleColumns

/-! ## Tables of versions -/

/-- A row type of versions: the parent they belong to, their number and their lifecycle
    columns. -/
class VersionRow (ρ : Type) where
  parentId : ρ → Id
  versionNumber : ρ → Nat
  columns : ρ → LifecycleColumns
  setColumns : ρ → LifecycleColumns → ρ
  parentId_setColumns : ∀ v c, parentId (setColumns v c) = parentId v
  versionNumber_setColumns : ∀ v c, versionNumber (setColumns v c) = versionNumber v
  columns_setColumns : ∀ v c, columns (setColumns v c) = c
  setColumns_columns : ∀ v, setColumns v (columns v) = v
  setColumns_setColumns : ∀ v c c', setColumns (setColumns v c) c' = setColumns v c'

namespace VersionLifecycle

variable {ρ β : Type} [VersionRow ρ]

/-- The status of a version. -/
abbrev status (v : ρ) : LifecycleStatus := (VersionRow.columns v).lifecycleStatus

/-- The unique indexes on the number within the parent and on the one effective version of
    a parent, and the foreign key `superseded_by_version_id`. -/
def constraints : Constraints ρ where
  conflict v w := VersionRow.parentId v = VersionRow.parentId w ∧
    (VersionRow.versionNumber v = VersionRow.versionNumber w ∨
      status v = .effective ∧ status w = .effective)
  refs v := (VersionRow.columns v).supersededByVersionId.toList

/-- Write the pending changes. -/
def flush [DecidableEq ρ] (rows : Tracked ρ) : Except PyError (Tracked ρ) :=
  match rows.flush constraints with
  | none => .error .integrityError
  | some rows => .ok rows

/-- The version's row after an event. -/
def applyTo (v : ρ) (event : LifecycleEvent) (occurredAt : Time) (actorId : Option String) : ρ :=
  VersionRow.setColumns v ((VersionRow.columns v).apply event occurredAt actorId)

/-- A projector: `session.get` the version and set its columns. -/
def project (rows : Tracked ρ) (event : DomainEvent Id β String) (body : LifecycleEvent) :
    Except PyError (Tracked ρ) :=
  match rows.current[event.aggregate]? with
  | none => .error .attributeError
  | some v => .ok (rows.set event.aggregate (applyTo v body event.occurredAt event.actorId))

/-- An aggregate type of versions: how its event bodies include the lifecycle events. -/
structure VersionProjection (ρ β : Type) extends Projection (Tracked ρ) β where
  body : LifecycleEvent → β
  lifecycleEvent : β → Option LifecycleEvent

/-! ## The commands -/

variable (P : VersionProjection ρ β) (clock : Clock) (s : Session (Tracked ρ) β) (id : Id)
  (actor : Actor)

/-- `append_and_project` for a lifecycle event of the version `id`. -/
def append (event : LifecycleEvent) (occurredAt : Option Time := none) :
    Outcome (Session (Tracked ρ) β) :=
  appendAndProject P.toProjection clock s
    { aggregate := id, body := P.body event, occurredAt := occurredAt,
      actorType := actor.actorType, actorId := actor.actorId }

/-- Run `command` on the row of the version, which the callers have loaded. -/
def withVersion (command : ρ → Outcome (Session (Tracked ρ) β)) :
    Outcome (Session (Tracked ρ) β) :=
  match s.rows.current[id]? with
  | none => .raised s .attributeError
  | some version => command version

/-- `submit_for_review`. -/
def submitForReview : Outcome (Session (Tracked ρ) β) :=
  withVersion s id fun version =>
    if status version ≠ .draft then
      .raised s (.valueError ("Cannot submit for review from lifecycle_status=" ++
        (status version).pyRepr ++ " (must be 'draft')"))
    else append P clock s id actor .submittedForReview

/-- `review_version`. -/
def reviewVersion (decision comment : String) : Outcome (Session (Tracked ρ) β) :=
  withVersion s id fun version =>
    if status version ≠ .inReview then
      .raised s (.valueError ("Cannot review from lifecycle_status=" ++
        (status version).pyRepr ++ " (must be 'in_review')"))
    else
      match ReviewDecision.parse decision with
      | none => .raised s (.valueError ("Invalid review decision: " ++ pyRepr decision))
      | some d =>
        if d = .rejected ∧ isBlank comment then
          .raised s (.valueError "A comment explaining the rejection is required")
        else append P clock s id actor (.reviewed d comment)

/-- `version.policy.versions`, `version.control.versions`: the newest first. -/
def versionsOf (parentId : Id) : List (Id × ρ) :=
  (s.rows.current.toList.filter fun x => VersionRow.parentId x.2 = parentId).insertionSort
    fun x y => VersionRow.versionNumber y.2 ≤ VersionRow.versionNumber x.2

/-- The effective version of the parent other than `id`. -/
def previousEffective (version : ρ) : Option (Id × ρ) :=
  (versionsOf s (VersionRow.parentId version)).find? fun x => status x.2 = .effective ∧ x.1 ≠ id

/-- `make_version_effective`, up to the explicit flush that ends it for policies: the
    previous effective version, if any, is superseded first. -/
def makeVersionEffective : Outcome (Session (Tracked ρ) β) :=
  withVersion s id fun version =>
    if status version ≠ .approved then
      .raised s (.valueError ("Cannot make effective from lifecycle_status=" ++
        (status version).pyRepr ++ " (must be 'approved')"))
    else
      (match previousEffective s id version with
        | some previous => append P clock s previous.1 actor (.superseded id)
        | none => .returned s).andThen
      fun s => append P clock s id actor .madeEffective

/-- `withdraw_version`. -/
def withdrawVersion (reason : String) (occurredAt : Option Time) :
    Outcome (Session (Tracked ρ) β) :=
  withVersion s id fun version =>
    if status version ∉ [.draft, .inReview, .approved, .effective] then
      .raised s (.valueError ("Cannot withdraw a version that is already " ++
        (status version).pyRepr))
    else append P clock s id actor (.withdrawn reason) occurredAt

end VersionLifecycle
end MiniGrc
