import MiniGrc.App.PolicyLifecycle

/-!
# Point-in-time reconstruction

`reconstruct_policy_as_of` of `app/history.py`: the versions of a policy as of a past
date, replayed in memory by appliers of its own from the events that had occurred by then.
-/

namespace MiniGrc.History

open Events PolicyLifecycle

/-- An in-memory reconstruction of a version's lifecycle columns. -/
structure PolicyVersionSnapshot where
  versionId : Id
  versionNumber : Nat
  lifecycleStatus : LifecycleStatus
  submittedBy : Option String := none
  submittedAt : Option Time := none
  reviewedBy : Option String := none
  reviewedAt : Option Time := none
  reviewDecision : Option ReviewDecision := none
  reviewComment : String := ""
  effectiveAt : Option Time := none
  supersededAt : Option Time := none
  supersededByVersionId : Option Id := none
  withdrawnAt : Option Time := none
  withdrawnReason : String := ""
  deriving DecidableEq, Repr

/-! ## The appliers -/

/-- `_apply_submitted_for_review`. -/
def applySubmittedForReview (snapshot : PolicyVersionSnapshot) (event : Event) :
    PolicyVersionSnapshot :=
  { snapshot with
    lifecycleStatus := .inReview
    submittedBy := event.actorId
    submittedAt := some event.occurredAt }

/-- `_apply_reviewed`. -/
def applyReviewed (snapshot : PolicyVersionSnapshot) (event : Event) (decision : ReviewDecision)
    (comment : String) : PolicyVersionSnapshot :=
  { snapshot with
    reviewedBy := event.actorId
    reviewedAt := some event.occurredAt
    reviewDecision := some decision
    reviewComment := comment
    lifecycleStatus := if decision = .approved then .approved else .draft }

/-- `_apply_made_effective`. -/
def applyMadeEffective (snapshot : PolicyVersionSnapshot) (event : Event) :
    PolicyVersionSnapshot :=
  { snapshot with lifecycleStatus := .effective, effectiveAt := some event.occurredAt }

/-- `_apply_superseded`. -/
def applySuperseded (snapshot : PolicyVersionSnapshot) (event : Event)
    (supersededByVersionId : Id) : PolicyVersionSnapshot :=
  { snapshot with
    lifecycleStatus := .superseded
    supersededAt := some event.occurredAt
    supersededByVersionId := some supersededByVersionId }

/-- `_apply_withdrawn`. -/
def applyWithdrawn (snapshot : PolicyVersionSnapshot) (event : Event) (reason : String) :
    PolicyVersionSnapshot :=
  { snapshot with
    lifecycleStatus := .withdrawn
    withdrawnAt := some event.occurredAt
    withdrawnReason := reason }

/-- `_SNAPSHOT_APPLIERS`. -/
def apply (snapshot : PolicyVersionSnapshot) (event : Event) : PolicyVersionSnapshot :=
  match event.body with
  | .submittedForReview => applySubmittedForReview snapshot event
  | .reviewed decision comment => applyReviewed snapshot event decision comment
  | .madeEffective => applyMadeEffective snapshot event
  | .superseded w => applySuperseded snapshot event w
  | .withdrawn reason => applyWithdrawn snapshot event reason

/-! ## The reconstruction -/

/-- `ORDER BY recorded_at, aggregate_sequence`. -/
def HistoryLe (e e' : Event) : Prop :=
  e.recordedAt < e'.recordedAt ∨
    e.recordedAt = e'.recordedAt ∧ e.aggregateSequence ≤ e'.aggregateSequence

instance : DecidableRel HistoryLe := fun _ _ => inferInstanceAs (Decidable (_ ∨ _))

/-- `version_ids_and_numbers`: the versions of the policy created by the cut-off. -/
def versionsAsOf (versions : Table PolicyVersion) (policyId : Id) (asOf : Time) :
    Table PolicyVersion :=
  versions.filter fun _ v => v.policyId = policyId ∧ v.createdAt ≤ asOf

/-- The events of these versions that had occurred by the cut-off. Those that tie in the
    order belong to different versions; they are taken in insertion order. -/
def eventsAsOf (known : Table PolicyVersion) (events : List Event) (asOf : Time) : List Event :=
  (events.filter fun e => e.aggregate ∈ known ∧ e.occurredAt ≤ asOf).insertionSort HistoryLe

/-- `snapshots` after the loop: each version's applied events, from a draft. -/
def snapshotsAsOf (known : Table PolicyVersion) (events : List Event) :
    Table PolicyVersionSnapshot :=
  events.foldl (fun snapshots event => snapshots.alter event.aggregate (·.map (apply · event)))
    (known.map fun id v =>
      { versionId := id, versionNumber := v.versionNumber, lifecycleStatus := .draft })

/-- `reconstruct_policy_as_of`. -/
def reconstructPolicyAsOf (versions : Table PolicyVersion) (events : List Event) (policyId : Id)
    (asOf : Time) : List PolicyVersionSnapshot :=
  let known := versionsAsOf versions policyId asOf
  let snapshots := snapshotsAsOf known (eventsAsOf known events asOf)
  (snapshots.toList.map Prod.snd).insertionSort fun a b => a.versionNumber ≤ b.versionNumber

end MiniGrc.History
