import MiniGrc.Spec.ControlMigration

/-!
# Upgrades, downgrades and what comes in between

Whether an upgrade completes and leaves rows that a rebuild gives back, over any run of
upgrades, downgrades and requests. The events of requests stay in the log when a downgrade
drops what they led to, and the next upgrade does not read them.

## Key results

- `upgrade_agrees`: in a run each of whose upgrades finds nothing in the log but events that
  it would insert itself, every upgrade completes and agrees with the log
- `upgrade_fails_or_disagrees`: requests between two upgrades make the second one raise, or
  the rebuild after it
-/

namespace MiniGrc.Migrations

open Events VersionLifecycle
open PolicyLifecycle (PolicyVersion rebuildPolicyVersionLifecycleProjection)
open ControlDefinitionLifecycle (rebuildInternalControlVersionProjection)

variable {clock : Clock} {s s' s₀ : State} {l : Label} {u : Upgrade}

/-- The database before the two revisions: no lifecycle columns, and no events. -/
structure PreMigration (s : State) : Prop where
  policyLifecycle : s.policyLifecycle = false
  controlLifecycle : s.controlLifecycle = false
  holds : constraints.Holds s.policyVersions.rows.current
  clean : s.policyVersions.rows = Tracked.clean s.policyVersions.rows.current
  defaults : ∀ (k : Id) v, s.policyVersions.rows.current[k]? = some v → v.toLifecycleColumns = {}
  policyEvents : s.policyVersions.events = []
  controlEvents : s.controlVersions.events = []

/-- An upgrade finds nothing in the log but events that it would insert itself. For policies
    these are the events of transitions that the versions still call for; for controls, the
    pairs of bootstraps of controls. -/
def Allowed (s : State) : Label → Prop
  | .upgrade .policyVersions => ∀ e ∈ s.policyVersions.events,
    CallsFor s.policies s.capturedAt s.policyVersions.rows.current fun t => t.event = e
  | .upgrade (.controlVersions newId) =>
    BootstrapsOnly s.controls s.controlVersions.events ∧
      FreshIds s.controls newId s.controlVersions.events ∧
      s.policyVersions.events.Pairwise fun e e' =>
        e.aggregate = e'.aggregate → e.recordedAt ≤ e'.recordedAt
  | _ => True

instance (s : State) : DecidablePred (Allowed s)
  | .upgrade .policyVersions => inferInstanceAs (Decidable (∀ e ∈ s.policyVersions.events, _))
  | .upgrade (.controlVersions _) => inferInstanceAs (Decidable (_ ∧ _ ∧ _))
  | .downgradePolicyVersions | .downgradeControlVersions | .savePolicy _ _ | .capture _ _ _
  | .saveControl _ _ | .policyCommand _ | .controlCommands _ => .isTrue trivial

/-- The rows are what a rebuild computes from the log, and no two events share a slot. -/
structure Agrees (s : State) : Prop where
  policies : rebuildPolicyVersionLifecycleProjection s.policyVersions.rows s.policyVersions.events =
    .ok s.policyVersions.rows
  controls : s.controlLifecycle = true →
    rebuildInternalControlVersionProjection s.controlVersions.rows s.controlVersions.events =
      .ok s.controlVersions.rows
  policySlots : s.policyVersions.events.Pairwise fun e e' => ¬ SameSlot e e'
  controlSlots : s.controlVersions.events.Pairwise fun e e' => ¬ SameSlot e e'

/-- What holds of the database at every revision. -/
structure Inv (s : State) : Prop where
  versions : VersionsInv s.policyLifecycle s.policyVersions.rows s.policyVersions.events
  clean : s.policyVersions.rows = Tracked.clean s.policyVersions.rows.current
  controlLog : WellFormed s.controlVersions.events
  /-- `96fd3c35a6ae` is not applied without `c4e8a7f2b391` -/
  revisions : s.policyLifecycle = false → s.controlLifecycle = false

theorem PreMigration.inv (h : PreMigration s) : Inv s where
  versions := by
    rw [h.policyLifecycle, h.policyEvents]
    refine ⟨?_, fun e he => absurd he List.not_mem_nil, wellFormed_nil, h.defaults⟩
    rw [h.clean]
    exact h.holds
  clean := h.clean
  controlLog := h.controlEvents ▸ wellFormed_nil
  revisions _ := h.controlLifecycle

/-! ## The upgrades -/

/-- An upgrade of the policy versions completes and agrees with the log. -/
theorem Inv.upgradePolicyVersions (h : Inv s) (hawaits : s.Awaits .policyVersions)
    (hallowed : Allowed s (.upgrade .policyVersions)) :
    ∃ s', s.upgradePolicyVersions = .ok s' ∧ Inv s' ∧ Agrees s' := by
  have hrevision : s.policyLifecycle = false := hawaits
  have hversions := h.versions
  rw [h.clean, hrevision] at hversions
  have hready := hversions.bootstrapped hallowed
  refine ⟨{ s with
    policyVersions :=
      ⟨Tracked.clean (backfilledRows s.policies s.capturedAt s.policyVersions.rows.current),
        backfilledEvents s.policies s.capturedAt s.policyVersions.rows.current
          s.policyVersions.events⟩
    policyLifecycle := true }, ?_, ?_, ?_⟩
  · rw [State.upgradePolicyVersions, hready.backfill_eq]
    exact if_pos hready.holds_backfilled
  · exact ⟨hready.versionsInv, rfl, h.controlLog, fun hno => nomatch hno⟩
  · have horder := Events.ofAggregate_replayOrder hready.wellFormed_backfilled
      hready.recordedInOrder
    refine ⟨hready.synced.rebuild_eq horder, fun hcontrols => ?_,
      hready.wellFormed_backfilled.not_sameSlot, h.controlLog.not_sameSlot⟩
    -- the other revision is not applied yet
    exact absurd ((h.revisions hrevision).symm.trans hcontrols) (by decide)

/-- An upgrade of the control-definition versions completes and agrees with the log. -/
theorem Inv.upgradeControlVersions (h : Inv s) {newId : Id → Id}
    (hawaits : s.Awaits (.controlVersions newId))
    (hallowed : Allowed s (.upgrade (.controlVersions newId))) :
    ∃ s', s.upgradeControlVersions newId = .ok s' ∧ Inv s' ∧ Agrees s' := by
  obtain ⟨hrevision, -⟩ := hawaits
  obtain ⟨honly, hfresh, hordered⟩ := hallowed
  have hready : Recoverable s.controls newId s.controlVersions.events :=
    ⟨h.controlLog, honly, hfresh⟩
  have hversions := h.versions
  rw [h.clean, hrevision] at hversions
  have hlog := wellFormed_flatMap hready.logged_apart
  refine ⟨{ s with
    controlVersions :=
      ⟨Tracked.clean (bootstrapped (allBootstraps s.controls newId s.controlVersions.events)),
        (loggedBootstraps s.controls newId s.controlVersions.events).flatMap Bootstrap.events⟩
    controlLifecycle := true }, ?_, ?_, ?_⟩
  · rw [State.upgradeControlVersions, hready.backfill_eq]
    rfl
  · refine ⟨h.versions, h.clean, hlog, fun hno => ?_⟩
    exact absurd (hrevision.symm.trans hno) (by decide)
  · have horder := Events.ofAggregate_replayOrder hversions.wellFormed
      (recordedInOrder_of_pairwise hordered)
    refine ⟨?_, fun _ => hready.rebuild_eq, hversions.wellFormed.not_sameSlot, hlog.not_sameSlot⟩
    have hrebuild := hversions.synced.rebuild_eq horder
    rwa [← h.clean] at hrebuild

theorem Inv.upgrade (h : Inv s) (hawaits : s.Awaits u) (hallowed : Allowed s (.upgrade u)) :
    ∃ s', s.upgrade u = .ok s' ∧ Inv s' ∧ Agrees s' := by
  cases u with
  | policyVersions => exact h.upgradePolicyVersions hawaits hallowed
  | controlVersions newId => exact h.upgradeControlVersions hawaits hallowed

/-! ## Runs -/

/-- A request on policy versions. -/
theorem Inv.policyRequest (h : Inv s) {c : PolicyLifecycle.Command}
    (hc : s.policyLifecycle = false → IsUpload c) : Inv (s.policyRequest clock c) := by
  have hcommand : (c.run clock (s.policyVersions.session s.ticks)).Returns
      fun s' => VersionsInv s.policyLifecycle s'.rows s'.events := by
    by_cases hupload : IsUpload c
    · cases c with
      | uploadVersion id policyId => exact VersionsInv.upload h.versions
      | _ => cases hupload
    · have hrevision : s.policyLifecycle = true := by
        by_contra hno
        exact hupload (hc (Bool.eq_false_iff.2 hno))
      have hversions := h.versions
      rw [hrevision] at hversions ⊢
      exact VersionsInv.command hupload hversions
  obtain ⟨hversions, hclean⟩ := VersionsInv.request (c.run clock) hcommand h.versions h.clean
  exact ⟨hversions, hclean, h.controlLog, h.revisions⟩

/-- One step keeps what holds at every revision. -/
theorem Inv.step (h : Inv s) (hallowed : Allowed s l) (hs : step clock s l = some s') : Inv s' := by
  cases l with
  | upgrade u =>
    obtain ⟨hawaits, hs⟩ := Option.ite_none_right_eq_some.1 hs
    obtain ⟨t, ht, hinv, -⟩ := h.upgrade hawaits hallowed
    rw [ht] at hs
    obtain rfl := Option.some.inj hs
    exact hinv
  | downgradePolicyVersions =>
    obtain ⟨⟨-, hcontrols⟩, hs⟩ := Option.ite_none_right_eq_some.1 hs
    obtain rfl := Option.some.inj hs
    have hversions := h.versions
    rw [h.clean] at hversions
    exact ⟨hversions.dropColumns, rfl, h.controlLog, fun _ => hcontrols⟩
  | downgradeControlVersions =>
    obtain ⟨-, hs⟩ := Option.ite_none_right_eq_some.1 hs
    obtain rfl := Option.some.inj hs
    exact ⟨h.versions, h.clean, h.controlLog, fun _ => rfl⟩
  | savePolicy id status =>
    obtain rfl := Option.some.inj hs
    exact ⟨h.versions, h.clean, h.controlLog, h.revisions⟩
  | capture id policyId capturedAt =>
    obtain ⟨-, hs⟩ := Option.ite_none_right_eq_some.1 hs
    obtain rfl := Option.some.inj hs
    have hrequest : Inv (s.policyRequest clock (.uploadVersion id policyId)) :=
      h.policyRequest fun _ => trivial
    exact ⟨hrequest.versions, hrequest.clean, hrequest.controlLog, hrequest.revisions⟩
  | saveControl id control =>
    obtain rfl := Option.some.inj hs
    exact ⟨h.versions, h.clean, h.controlLog, h.revisions⟩
  | policyCommand c =>
    obtain ⟨⟨hrevision, -⟩, hs⟩ := Option.ite_none_right_eq_some.1 hs
    obtain rfl := Option.some.inj hs
    refine h.policyRequest fun hno => ?_
    exact absurd (hrevision.symm.trans hno) (by decide)
  | controlCommands cs =>
    obtain ⟨-, hs⟩ := Option.ite_none_right_eq_some.1 hs
    obtain rfl := Option.some.inj hs
    exact ⟨h.versions, h.clean,
      (ControlDefinitionLifecycle.runAll_script cs).request_wellFormed h.controlLog, h.revisions⟩

theorem Inv.run (h : Inv s₀) (hr : Run (Migrations.step clock) Allowed s₀ s) : Inv s :=
  hr.invariant h fun _ _ _ hi hok hs => hi.step hok hs

/-- In a run each of whose upgrades finds nothing in the log but events that it would insert
    itself, every upgrade completes, and right after it the rows are what a rebuild computes,
    and no two events of an aggregate have one sequence number. -/
theorem upgrade_agrees (h₀ : PreMigration s₀) (h : Run (step clock) Allowed s₀ s)
    (hawaits : s.Awaits u) (hallowed : Allowed s (.upgrade u)) :
    ∃ s', s.upgrade u = .ok s' ∧ Agrees s' := by
  obtain ⟨s', hs', -, hagrees⟩ := (h₀.inv.run h).upgrade hawaits hallowed
  exact ⟨s', hs', hagrees⟩

/-! ## Some histories -/

/-- A version of the policy 7. -/
def firstVersion : Table PolicyVersion :=
  (∅ : Table PolicyVersion).insert 70 { policyId := 7, versionNumber := 1, createdAt := 0 }

/-- One version of a policy, and one control. -/
def beforeMigrations (status : String) : State where
  policies := (∅ : Table String).insert 7 status
  capturedAt _ := 0
  policyVersions := ⟨Tracked.clean firstVersion, []⟩
  controls := (∅ : Table Control).insert 5 ⟨"Access review", "", "implemented", "annual", 3, []⟩
  controlVersions := ⟨Tracked.clean ∅, []⟩
  policyLifecycle := false
  controlLifecycle := false
  ticks := 0

theorem preMigration (status : String) : PreMigration (beforeMigrations status) where
  policyLifecycle := rfl
  controlLifecycle := rfl
  holds := by
    show constraints.Holds firstVersion
    decide
  clean := rfl
  defaults := by
    show ∀ (k : Id) v, firstVersion[k]? = some v → v.toLifecycleColumns = {}
    exact Table.forall_of_toList (by decide)
  policyEvents := rfl
  controlEvents := rfl

/-- Both revisions are applied, taken back, and the first one is applied again. -/
def upAndDown : List Label :=
  [.upgrade .policyVersions, .upgrade (.controlVersions (· + 100)), .downgradeControlVersions,
    .downgradePolicyVersions, .upgrade .policyVersions]

/-- `upgrade_agrees` for the last upgrade, which finds the bootstrap of the control. -/
theorem upgrade_agrees_upAndDown : ∃ s s',
    Run.exec (Run.guarded (step tickingClock) Allowed) (beforeMigrations "approved") upAndDown =
      some s ∧ s.upgrade (.controlVersions (· + 200)) = .ok s' ∧ Agrees s' := by
  obtain ⟨s, hs, hawaits, hallowed⟩ : ∃ s,
      Run.exec (Run.guarded (step tickingClock) Allowed) (beforeMigrations "approved") upAndDown =
        some s ∧ s.Awaits (.controlVersions (· + 200)) ∧
        Allowed s (.upgrade (.controlVersions (· + 200))) := ⟨_, rfl, by decide, by decide⟩
  obtain ⟨s', hs', hagrees⟩ :=
    upgrade_agrees (preMigration _) (Run.of_exec_guarded _ hs) hawaits hallowed
  exact ⟨s, s', hs, hs', hagrees⟩

/-- A version is submitted before the downgrade, and the policy is approved after it. -/
def submittedBetween : List Label :=
  [.upgrade .policyVersions, .policyCommand (.submitForReview 70 {}), .downgradePolicyVersions,
    .savePolicy 7 "approved"]

/-- A new version of an approved policy is captured after the downgrade. -/
def capturedBetween : List Label :=
  [.upgrade .policyVersions, .downgradePolicyVersions, .capture 71 7 5]

/-- The submission has taken the sequence number 1, so the next upgrade raises. After the
    capture the upgrade completes, but a rebuild makes both versions effective. -/
theorem upgrade_fails_or_disagrees :
    (∃ s, PreMigration (beforeMigrations "draft") ∧
      Run (step tickingClock) (fun _ _ => True) (beforeMigrations "draft") s ∧
      s.Awaits .policyVersions ∧ s.upgrade .policyVersions = .error .integrityError) ∧
    ∃ s s', PreMigration (beforeMigrations "approved") ∧
      Run (step tickingClock) (fun _ _ => True) (beforeMigrations "approved") s ∧
      s.Awaits .policyVersions ∧ s.upgrade .policyVersions = .ok s' ∧
      rebuildPolicyVersionLifecycleProjection s'.policyVersions.rows s'.policyVersions.events =
        .error .integrityError :=
  ⟨⟨_, preMigration _, Run.of_exec_true submittedBetween rfl, rfl, rfl⟩,
    _, _, preMigration _, Run.of_exec_true capturedBetween rfl, rfl, rfl, rfl⟩

end MiniGrc.Migrations
