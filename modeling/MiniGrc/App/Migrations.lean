import MiniGrc.App.Backup

/-!
# The migrations of the version lifecycles

The revisions `c4e8a7f2b391` and `96fd3c35a6ae` of `migrations/versions/`, which add the
lifecycle columns of `policy_versions` and the table `internal_control_versions`, with
their backfills, their downgrades, and what the application does in between. A downgrade
keeps every row of `domain_events`.

Of the columns that a revision adds only the lifecycle columns are modelled; where they
are dropped, a row has their defaults. The rows that a revision reads without an order
are taken in key order, the events in insertion order.
-/

namespace MiniGrc.Migrations

open Events VersionLifecycle
open PolicyLifecycle (PolicyVersion)
open ControlDefinitionLifecycle (InternalControlVersion Draft)

/-- The values of a row that `_insert_event` inserts. -/
def bootstrapEvent {β : Type} (aggregateId : Id) (aggregateSequence : Nat) (body : β)
    (occurredAt : Time) : DomainEvent Id β String where
  aggregate := aggregateId
  aggregateSequence := aggregateSequence
  body := body
  occurredAt := occurredAt
  recordedAt := occurredAt
  actorType := "migration"
  actorId := none
  idempotencyKey := none

/-- An insert into `domain_events`, which has unique constraints. -/
def insertEvent {β : Type} (events : List (DomainEvent Id β String))
    (event : DomainEvent Id β String) : Except PyError (List (DomainEvent Id β String)) :=
  if ∃ e ∈ events, Conflicts e event then .error .integrityError else .ok (events ++ [event])

/-! ## `c4e8a7f2b391` -/

/-- A lifecycle transition that the backfill of a policy finds. -/
inductive Transition
  /-- a later version was captured -/
  | superseded (current following : Id) (followingCapturedAt : Time)
  /-- the latest version of an approved or retired policy -/
  | effective (latest : Id) (capturedAt : Time)
  deriving DecidableEq

namespace Transition

/-- The id of the version. -/
def versionId : Transition → Id
  | .superseded current _ _ => current
  | .effective latest _ => latest

/-- The `UPDATE` of the version's row. -/
def update (t : Transition) (c : LifecycleColumns) : LifecycleColumns :=
  match t with
  | .superseded _ following followingCapturedAt =>
    { c with
      lifecycleStatus := .superseded
      supersededAt := some followingCapturedAt
      supersededByVersionId := some following }
  | .effective _ capturedAt =>
    { c with lifecycleStatus := .effective, effectiveAt := some capturedAt }

/-- The bootstrap event of the transition. -/
def event : Transition → PolicyLifecycle.Event
  | .superseded current following followingCapturedAt =>
    bootstrapEvent current 1 (.superseded following) followingCapturedAt
  | .effective latest capturedAt => bootstrapEvent latest 1 .madeEffective capturedAt

end Transition

/-- The versions of a policy, `ORDER BY version_number`. -/
def versionsOf (rows : Table PolicyVersion) (policyId : Id) : List (Id × PolicyVersion) :=
  (rows.toList.filter fun x => x.2.policyId = policyId).insertionSort
    fun x y => x.2.versionNumber ≤ y.2.versionNumber

/-- The transitions of a policy with the status and the versions: those of
    `zip(versions, versions[1:])`, then that of the latest version. -/
def transitionsOf (capturedAt : Id → Time) (status : String)
    (versions : List (Id × PolicyVersion)) :
    List Transition :=
  (versions.zip versions.tail).map
      (fun x => .superseded x.1.1 x.2.1 (capturedAt x.2.1)) ++
    match versions.getLast? with
    | none => []
    | some latest =>
      if status = "approved" ∨ status = "retired" then [.effective latest.1 (capturedAt latest.1)]
      else []

/-- The transitions of all policies. The `UPDATE`s change no column that is read for them. -/
def transitions (policies : Table String) (capturedAt : Id → Time) (rows : Table PolicyVersion) :
    List Transition :=
  policies.toList.flatMap fun policy => transitionsOf capturedAt policy.2 (versionsOf rows policy.1)

/-- `already_backfilled_aggregate_ids`. -/
def alreadyBackfilled (events : List PolicyLifecycle.Event) : List Id :=
  (events.filter fun e => e.actorType = "migration").map DomainEvent.aggregate

/-- The table after the `UPDATE` of a version. -/
def updateVersion (rows : Table PolicyVersion) (t : Transition) : Table PolicyVersion :=
  rows.alter t.versionId
    (·.map fun v => { v with toLifecycleColumns := t.update v.toLifecycleColumns })

/-- One round of the backfill: the `UPDATE` and the `_insert_event`. -/
def backfillTransition (already : List Id)
    (tables : Table PolicyVersion × List PolicyLifecycle.Event) (t : Transition) :
    Except PyError (Table PolicyVersion × List PolicyLifecycle.Event) :=
  let rows := updateVersion tables.1 t
  if t.versionId ∈ already then .ok (rows, tables.2)
  else (insertEvent tables.2 t.event).map fun events => (rows, events)

/-- `_backfill_lifecycle`. -/
def backfillLifecycle (policies : Table String) (capturedAt : Id → Time)
    (rows : Table PolicyVersion) (events : List PolicyLifecycle.Event) :
    Except PyError (Table PolicyVersion × List PolicyLifecycle.Event) :=
  (transitions policies capturedAt rows).foldlM (backfillTransition (alreadyBackfilled events))
    (rows, events)

/-! ## `96fd3c35a6ae` -/

/-- The columns of an `internal_controls` row that the backfill selects, with the ids of the
    mapped requirements. -/
structure Control where
  name : String
  description : String
  status : String
  reviewFrequency : String
  updatedAt : Time
  mappedRequirementIds : List Id
  deriving DecidableEq

/-- The `(version_id, drafted_payload, occurred_at)` of a control. -/
structure Bootstrap where
  versionId : Id
  draftedPayload : Draft
  occurredAt : Time
  deriving DecidableEq

namespace Bootstrap

/-- The `InternalControlVersionDrafted` event. -/
def drafted (b : Bootstrap) : ControlDefinitionLifecycle.Event :=
  bootstrapEvent b.versionId 1 (.drafted b.draftedPayload) b.occurredAt

/-- The `InternalControlVersionMadeEffective` event. -/
def madeEffective (b : Bootstrap) : ControlDefinitionLifecycle.Event :=
  bootstrapEvent b.versionId 2 (.lifecycle .madeEffective) b.occurredAt

/-- The two events, in the order in which they are inserted. -/
def events (b : Bootstrap) : List ControlDefinitionLifecycle.Event := [b.drafted, b.madeEffective]

/-- The values of the row that is inserted. -/
def row (b : Bootstrap) : InternalControlVersion where
  toDraft := b.draftedPayload
  lifecycleStatus := .effective
  draftedAt := b.occurredAt
  draftedBy := none
  effectiveAt := some b.occurredAt

end Bootstrap

/-- The bootstrap of a stored event, if it is a `Drafted` event of a migration. -/
def bootstrapOf (event : ControlDefinitionLifecycle.Event) : Option Bootstrap :=
  match event.body with
  | .drafted payload =>
    if event.actorType = "migration" then some ⟨event.aggregate, payload, event.occurredAt⟩
    else none
  | .lifecycle _ => none

/-- The bootstraps that the log records. -/
def recordedBootstraps (events : List ControlDefinitionLifecycle.Event) : List Bootstrap :=
  events.filterMap bootstrapOf

/-- `existing_drafted_by_control_id.get`: the last one that was put in. -/
def existingDrafted (events : List ControlDefinitionLifecycle.Event) (controlId : Id) :
    Option Bootstrap :=
  (recordedBootstraps events).reverse.find? fun b => b.draftedPayload.controlId = controlId

/-- The bootstrap of a control that has none yet, under the `uuid.uuid4().hex` drawn for it. -/
def newBootstrap (versionId controlId : Id) (control : Control) : Bootstrap where
  versionId := versionId
  draftedPayload :=
    { controlId := controlId
      versionNumber := 1
      name := control.name
      description := control.description
      statusSnapshot := control.status
      reviewFrequencySnapshot := control.reviewFrequency
      mappedRequirementIds := control.mappedRequirementIds }
  occurredAt := control.updatedAt

/-- The insert into `internal_control_versions`. -/
def insertVersion (rows : Table InternalControlVersion) (b : Bootstrap) :
    Except PyError (Table InternalControlVersion) :=
  if b.versionId ∉ rows ∧ constraints.Admits rows b.versionId b.row then
    .ok (rows.insert b.versionId b.row)
  else .error .integrityError

/-- The round of the backfill for a control. -/
def backfillControl (existing : Id → Option Bootstrap) (newId : Id → Id)
    (tables : Table InternalControlVersion × List ControlDefinitionLifecycle.Event)
    (control : Id × Control) :
    Except PyError (Table InternalControlVersion × List ControlDefinitionLifecycle.Event) :=
  match existing control.1 with
  | some b => (insertVersion tables.1 b).map fun rows => (rows, tables.2)
  | none =>
    let b := newBootstrap (newId control.1) control.1 control.2
    (insertEvent tables.2 b.drafted).bind fun events =>
      (insertEvent events b.madeEffective).bind fun events =>
        (insertVersion tables.1 b).map fun rows => (rows, events)

/-- `_backfill_initial_effective_versions`, on the table that the revision has created. -/
def backfillInitialEffectiveVersions (controls : Table Control) (newId : Id → Id)
    (events : List ControlDefinitionLifecycle.Event) :
    Except PyError (Table InternalControlVersion × List ControlDefinitionLifecycle.Event) :=
  controls.toList.foldlM (backfillControl (existingDrafted events) newId) (∅, events)

/-! ## The database over time -/

/-- The database. -/
structure State where
  /-- `policies.status`, by id -/
  policies : Table String
  /-- `policy_versions.captured_at`, by id -/
  capturedAt : Id → Time
  policyVersions : Stream (Tracked PolicyVersion) LifecycleEvent
  controls : Table Control
  controlVersions : Stream (Tracked InternalControlVersion) ControlDefinitionLifecycle.Body
  /-- the revision `c4e8a7f2b391` is applied -/
  policyLifecycle : Bool
  /-- the revision `96fd3c35a6ae` is applied -/
  controlLifecycle : Bool
  /-- how often the clock has been read -/
  ticks : Nat

/-- An `upgrade()`. -/
inductive Upgrade
  | policyVersions
  /-- with the ids that are drawn for the controls -/
  | controlVersions (newId : Id → Id)

namespace State

/-- The transitions that an upgrade of `policy_versions` would find. -/
def transitions (s : State) : List Transition :=
  Migrations.transitions s.policies s.capturedAt s.policyVersions.rows.current

/-- `upgrade()` of `c4e8a7f2b391`: the foreign key and the unique index are created after
    the backfill. -/
def upgradePolicyVersions (s : State) : Except PyError State :=
  (backfillLifecycle s.policies s.capturedAt s.policyVersions.rows.current
    s.policyVersions.events).bind fun tables =>
    if constraints.Holds tables.1 then
      .ok { s with policyVersions := ⟨Tracked.clean tables.1, tables.2⟩, policyLifecycle := true }
    else .error .integrityError

/-- `upgrade()` of `96fd3c35a6ae`. -/
def upgradeControlVersions (s : State) (newId : Id → Id) : Except PyError State :=
  (backfillInitialEffectiveVersions s.controls newId s.controlVersions.events).map fun tables =>
    { s with controlVersions := ⟨Tracked.clean tables.1, tables.2⟩, controlLifecycle := true }

/-- Run an `upgrade()`. -/
def upgrade (s : State) : Upgrade → Except PyError State
  | .policyVersions => s.upgradePolicyVersions
  | .controlVersions newId => s.upgradeControlVersions newId

/-- The revision is the next one. `96fd3c35a6ae` comes after `c4e8a7f2b391`. -/
def Awaits (s : State) : Upgrade → Prop
  | .policyVersions => s.policyLifecycle = false
  | .controlVersions _ => s.policyLifecycle = true ∧ s.controlLifecycle = false

instance (s : State) : (u : Upgrade) → Decidable (s.Awaits u)
  | .policyVersions => inferInstanceAs (Decidable (_ = _))
  | .controlVersions _ => inferInstanceAs (Decidable (_ ∧ _))

/-- `downgrade()` of `96fd3c35a6ae`: the table is dropped. -/
def downgradeControlVersions (s : State) : State :=
  { s with
    controlVersions := { s.controlVersions with rows := Tracked.clean ∅ }
    controlLifecycle := false }

/-- `downgrade()` of `c4e8a7f2b391`: the lifecycle columns are dropped. -/
def downgradePolicyVersions (s : State) : State :=
  { s with
    policyVersions :=
      { s.policyVersions with
        rows := Tracked.clean (s.policyVersions.rows.current.map fun _ =>
          PolicyLifecycle.withLifecycleDefaults) }
    policyLifecycle := false }

/-- A request on policy versions. -/
def policyRequest (clock : Clock) (s : State) (c : PolicyLifecycle.Command) : State :=
  let session := request PolicyLifecycle.projection.toProjection (c.run clock)
    (s.policyVersions.session s.ticks)
  { s with policyVersions := session.stream, ticks := session.ticks }

/-- A request on control-definition versions. -/
def controlRequest (clock : Clock) (s : State) (cs : List ControlDefinitionLifecycle.Command) :
    State :=
  let session := request ControlDefinitionLifecycle.projection.toProjection
    (ControlDefinitionLifecycle.runAll clock cs) (s.controlVersions.session s.ticks)
  { s with controlVersions := session.stream, ticks := session.ticks }

end State

/-- What happens to the database. -/
inductive Label
  | upgrade (u : Upgrade)
  | downgradePolicyVersions
  | downgradeControlVersions
  /-- a policy is created or its status changed -/
  | savePolicy (id : Id) (status : String)
  /-- a version of a policy is captured, under a fresh id -/
  | capture (id policyId : Id) (capturedAt : Time)
  /-- a control is created or changed -/
  | saveControl (id : Id) (control : Control)
  | policyCommand (c : PolicyLifecycle.Command)
  | controlCommands (cs : List ControlDefinitionLifecycle.Command)

/-- The command inserts a version. -/
def IsUpload : PolicyLifecycle.Command → Prop
  | .uploadVersion _ _ => True
  | _ => False

instance : DecidablePred IsUpload
  | .uploadVersion _ _ => .isTrue trivial
  | .submitForReview _ _ | .reviewVersion _ _ _ _ | .makeVersionEffective _ _
  | .withdrawVersion _ _ _ _ => .isFalse id

/-- One step. Versions are captured at every revision, lifecycle commands need theirs; a
    run does not go on after an upgrade that raises. -/
def step (clock : Clock) (s : State) : Label → Option State
  | .upgrade u => if s.Awaits u then (s.upgrade u).toOption else none
  | .downgradePolicyVersions =>
    if s.policyLifecycle = true ∧ s.controlLifecycle = false then some s.downgradePolicyVersions
    else none
  | .downgradeControlVersions =>
    if s.controlLifecycle = true then some s.downgradeControlVersions else none
  | .savePolicy id status => some { s with policies := s.policies.insert id status }
  | .capture id policyId capturedAt =>
    if id ∉ s.policyVersions.rows.current then
      some { s.policyRequest clock (.uploadVersion id policyId) with
        capturedAt := Function.update s.capturedAt id capturedAt }
    else none
  | .saveControl id control => some { s with controls := s.controls.insert id control }
  | .policyCommand c =>
    if s.policyLifecycle = true ∧ ¬ IsUpload c then some (s.policyRequest clock c) else none
  | .controlCommands cs =>
    if s.controlLifecycle = true then some (s.controlRequest clock cs) else none

end MiniGrc.Migrations
