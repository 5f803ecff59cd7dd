import MiniGrc.ForStd.Run
import MiniGrc.Spec.ConnectorCalls

/-!
# Upgrades of connector instances

The direction of an upgrade is worked out when it is planned, against manifests of the
caller's choice. Since `apply_connector_instance_upgrade` only takes a plan that starts at the
version which the instance has, and a manifest that is the one of the plan, the direction is
that of the step which is taken.

## Key results

- `semverTuple_isSome`: a version that `validate_manifest` accepts has a numeric value
- `State.Versioned.step`: what the instances and the plans always satisfy
- `checkUpgrade_eq_ok`: what an upgrade that is applied has passed
- `no_silent_downgrade`: every call in every sequence of calls
-/

namespace MiniGrc.Connectors

open PolicyStorage

variable {c : Char} {text : List Char} {n : Nat} {b : Bool} {version : String}

/-! ## Numbers -/

/-- The characters that `str.strip()` removes. -/
def pySpaces : List Nat :=
  [9, 10, 11, 12, 13, 28, 29, 30, 31, 32, 0x85, 0xA0, 0x1680, 0x2000, 0x2001, 0x2002, 0x2003,
    0x2004, 0x2005, 0x2006, 0x2007, 0x2008, 0x2009, 0x200A, 0x2028, 0x2029, 0x202F, 0x205F, 0x3000]

theorem mem_pySpaces (h : isPySpace c = true) : c.toNat ∈ pySpaces := by
  unfold isPySpace at h
  simp only [Bool.or_eq_true, Bool.and_eq_true, decide_eq_true_eq, beq_iff_eq] at h
  simp only [pySpaces, List.mem_cons, List.not_mem_nil, or_false]
  omega

/-- No decimal digit is a space. -/
theorem isPySpace_of_digitValue (h : (digitValue c).isSome = true) : isPySpace c = false := by
  by_contra hspace
  have hmem := mem_pySpaces (Bool.eq_true_of_not_eq_false hspace)
  -- the spaces are finitely many, so each is tried
  have hnone : ∀ n ∈ pySpaces,
      digitZeros.find? (fun start => decide (start ≤ n ∧ n < start + 10)) = none := by decide
  rw [digitValue, hnone _ hmem] at h
  cases h

/-- A list none of whose elements is to be dropped. -/
theorem dropWhile_of_forall {p : Char → Bool} (h : ∀ c ∈ text, p c = false) (rest : List Char)
    (hne : text ≠ []) : (text ++ rest).dropWhile p = text ++ rest := by
  cases text with
  | nil => exact absurd rfl hne
  | cons c cs =>
    have hc : ¬ p c = true := by simp [h c List.mem_cons_self]
    rw [List.cons_append, List.dropWhile_cons_of_neg hc]

/-- What `isNumber` says of a text. -/
theorem isNumber_iff :
    isNumber text = true ↔ text ≠ [] ∧ ∀ c ∈ text, (digitValue c).isSome = true := by
  simp [isNumber]

/-- `int()` takes the white space after a number away. -/
theorem strip_number (h : isNumber text = true) {rest : List Char}
    (hrest : rest = [] ∨ rest = ['\n']) : strip (text ++ rest) = text := by
  obtain ⟨hne, hdigits⟩ := isNumber_iff.1 h
  have hspace : ∀ c ∈ text, isPySpace c = false :=
    fun c hc => isPySpace_of_digitValue (hdigits c hc)
  -- a `$` of the pattern lets a line break follow, which `strip()` removes
  have hback : (text ++ rest).reverse.dropWhile isPySpace = text.reverse := by
    have hreverse : ∀ c ∈ text.reverse, isPySpace c = false := fun c hc =>
      hspace c (List.mem_reverse.1 hc)
    have hkeep : text.reverse.dropWhile isPySpace = text.reverse := by
      have := dropWhile_of_forall hreverse [] (by simpa using hne)
      rwa [List.append_nil] at this
    rcases hrest with rfl | rfl
    · rw [List.append_nil]
      exact hkeep
    · rw [List.reverse_append, List.reverse_singleton, List.singleton_append,
        List.dropWhile_cons_of_pos (by decide)]
      exact hkeep
  rw [strip, dropWhile_of_forall hspace rest hne, hback, List.reverse_reverse]

theorem digitsFrom_isSome (h : ∀ c ∈ text, (digitValue c).isSome = true) (n : Nat) (b : Bool)
    (hb : text ≠ [] ∨ b = true) : (digitsFrom n b text).isSome = true := by
  induction text generalizing n b with
  | nil =>
    obtain rfl : b = true := by simpa using hb
    rfl
  | cons c cs ih =>
    obtain ⟨digit, hdigit⟩ := Option.isSome_iff_exists.1 (h c List.mem_cons_self)
    rw [digitsFrom, hdigit]
    exact ih (fun c hc => h c (List.mem_cons_of_mem _ hc)) _ true (.inr rfl)

theorem pyInt_isSome (h : isNumber text = true) {rest : List Char}
    (hrest : rest = [] ∨ rest = ['\n']) : (pyInt (text ++ rest)).isSome = true := by
  obtain ⟨hne, hdigits⟩ := isNumber_iff.1 h
  have hsome := digitsFrom_isSome hdigits 0 false (.inl hne)
  rw [pyInt, strip_number h hrest]
  split
  · -- a sign is no digit
    exact absurd (hdigits '-' List.mem_cons_self) (by decide)
  · exact absurd (hdigits '+' List.mem_cons_self) (by decide)
  · simpa using hsome

/-! ## Versions -/

/-- A version that `validate_manifest` accepts has a numeric value. -/
theorem semverTuple_isSome (h : isSemver version = true) : ∃ v, semverTuple version = some v := by
  unfold isSemver at h
  unfold semverTuple
  split at h
  · next major minor patch _ =>
    rw [Bool.and_eq_true, Bool.and_eq_true, Bool.or_eq_true] at h
    obtain ⟨⟨hmajor, hminor⟩, hpatch⟩ := h
    obtain ⟨a, ha⟩ := Option.isSome_iff_exists.1 (pyInt_isSome hmajor (.inl rfl))
    obtain ⟨b, hb⟩ := Option.isSome_iff_exists.1 (pyInt_isSome hminor (.inl rfl))
    -- the line break can only follow the last number
    have hc : (pyInt patch).isSome = true := by
      rcases hpatch with hpatch | hpatch
      · simpa using pyInt_isSome hpatch (.inl rfl)
      · rw [Bool.and_eq_true, beq_iff_eq] at hpatch
        have hlast : patch.dropLast ++ ['\n'] = patch :=
          List.dropLast_append_getLast? _ hpatch.1
        rw [← hlast]
        exact pyInt_isSome hpatch.2 (.inr rfl)
    obtain ⟨c, hc⟩ := Option.isSome_iff_exists.1 hc
    rw [List.append_nil] at ha hb
    simp only [ha, hb, hc]
    exact ⟨_, rfl⟩
  · cases h

theorem isSemver_of_validateManifest {manifest : Manifest}
    (h : validateManifest manifest = .ok ()) : isSemver manifest.version = true := by
  unfold validateManifest at h
  simp only at h
  split at h
  · cases h
  · split at h
    · cases h
    · next hversion => simpa using hversion

end MiniGrc.Connectors

namespace MiniGrc.ConnectorInstances

open Connectors

variable {env : Env} {s t : State} {l : Label} {i : Id} {instance' : Instance}
  {plan : ConnectorUpgradePlan} {fromManifest toManifest : Manifest} {allowDowngrade : Bool}

/-! ## Plans -/

/-- The direction of a plan is that of the numeric order, and it ends at a valid version. -/
structure Planned (plan : ConnectorUpgradePlan) : Prop where
  toVersion : isSemver plan.toVersion = true
  direction : ∀ a b, semverTuple plan.fromVersion = some a → semverTuple plan.toVersion = some b →
    b < a → plan.direction = .downgrade

theorem planned_of_plan
    (h : planConnectorInstanceUpgrade instance' fromManifest toManifest = .ok plan) :
    Planned plan := by
  obtain ⟨⟨⟩, -, h⟩ := Except.bind_eq_ok.1 h
  obtain ⟨⟨⟩, hvalid, h⟩ := Except.bind_eq_ok.1 h
  obtain ⟨⟨⟩, -, h⟩ := Except.bind_eq_ok.1 h
  split at h
  · next a b ha hb =>
    cases h
    -- the plan compares the versions that it names
    refine ⟨isSemver_of_validateManifest hvalid, fun a' b' ha' hb' hlt => ?_⟩
    obtain rfl := Option.some.inj (ha.symm.trans ha')
    obtain rfl := Option.some.inj (hb.symm.trans hb')
    simp only
    rw [if_neg hlt.not_gt, if_pos hlt]
  · cases h
  · cases h

/-- An upgrade that is applied starts at the version of its plan and takes the manifest that
    the plan has reviewed; a downgrade has been asked for. -/
structure Reviewed (instance' : Instance) (plan : ConnectorUpgradePlan) (toManifest : Manifest)
    (allowDowngrade : Bool) : Prop where
  fromVersion : instance'.manifestVersion = plan.fromVersion
  toVersion : toManifest.version = plan.toVersion
  capabilities : toManifest.capabilities = plan.toCapabilities
  requiredPermissions : toManifest.requiredPermissions = plan.toRequiredPermissions
  downgrade : plan.direction = .downgrade → allowDowngrade = true

theorem reviewed_of_checkUpgrade
    (h : checkUpgrade instance' plan toManifest allowDowngrade = .ok ()) :
    Reviewed instance' plan toManifest allowDowngrade := by
  unfold checkUpgrade at h
  split at h
  · cases h
  · next hfrom =>
    split at h
    · cases h
    · next hdowngrade =>
      split at h
      · cases h
      · split at h
        · cases h
        · next hmanifest =>
          push Not at hmanifest
          refine ⟨not_not.1 hfrom, hmanifest.1, hmanifest.2.1, hmanifest.2.2, fun hdir => ?_⟩
          by_contra hallow
          exact hdowngrade ⟨hdir, hallow⟩

/-! ## What the calls do to versions -/

/-- The invariant: every instance has a valid version, and every plan the direction of its
    versions. -/
structure State.Versioned (s : State) : Prop where
  instances : ∀ (i : Id) instance', s.instances[i]? = some instance' →
    isSemver instance'.manifestVersion = true
  plans : ∀ plan ∈ s.plans, Planned plan

/-- A row that replaces another one of the same version. -/
def SameVersion (old new : Instance) : Prop := new.manifestVersion = old.manifestVersion

/-- The version of an instance after a call is that of a new instance, the one before, or that of
    a manifest to which a reviewed upgrade goes. -/
theorem step_version (h : step env s l = some t) {new : Instance}
    (hnew : t.instances[i]? = some new) :
    (s.instances[i]? = none ∧ isSemver new.manifestVersion = true) ∨
      ∃ old, s.instances[i]? = some old ∧ (new.manifestVersion = old.manifestVersion ∨
        ∃ plan toManifest allowDowngrade, l = .apply i plan toManifest allowDowngrade ∧
          plan ∈ s.plans ∧ Reviewed old plan toManifest allowDowngrade ∧
          new.manifestVersion = toManifest.version) := by
  cases l with
  | install manifest displayName config secretValues =>
    obtain ⟨hvalid, stored, -, hfresh, rfl⟩ := step_install h
    rcases Table.of_get_insert hnew with ⟨rfl, rfl⟩ | hnew
    · refine .inl ⟨?_, isSemver_of_validateManifest hvalid⟩
      exact Option.eq_none_iff_forall_ne_some.2 fun old hold => hfresh (Table.mem_of_get hold)
    · exact .inr ⟨new, hnew, .inl rfl⟩
  | updateConfig id manifest config secretValues =>
    obtain ⟨old, stored, hold, -, rfl⟩ := step_updateConfig h
    obtain ⟨old, hold, hsame⟩ := Table.exists_of_get_insert (R := SameVersion) hnew hold rfl
      fun _ => rfl
    exact .inr ⟨old, hold, .inl hsame⟩
  | setEnabled id enabled =>
    obtain ⟨old, hold, rfl⟩ := Option.map_eq_some_iff.1 h
    obtain ⟨old, hold, hsame⟩ := Table.exists_of_get_insert (R := SameVersion) hnew hold rfl
      fun _ => rfl
    exact .inr ⟨old, hold, .inl hsame⟩
  | remove id =>
    obtain ⟨old, hold, rfl⟩ := Option.map_eq_some_iff.1 h
    rw [Std.ExtTreeMap.getElem?_erase] at hnew
    split at hnew
    · cases hnew
    · exact .inr ⟨new, hnew, .inl rfl⟩
  | plan id fromManifest toManifest =>
    obtain ⟨_, _, _, _, rfl⟩ := step_plan h
    exact .inr ⟨new, hnew, .inl rfl⟩
  | apply id plan toManifest allowDowngrade =>
    obtain ⟨hplan, old, hold, hcheck, rfl⟩ := step_apply h
    rcases Table.of_get_insert hnew with ⟨rfl, rfl⟩ | hnew
    · exact .inr ⟨old, hold, .inr ⟨plan, toManifest, allowDowngrade, rfl, hplan,
        reviewed_of_checkUpgrade hcheck, rfl⟩⟩
    · exact .inr ⟨new, hnew, .inl rfl⟩

/-- Only `plan` adds a plan, and it works out its direction. -/
theorem step_plans (h : step env s l = some t) (hs : ∀ plan ∈ s.plans, Planned plan) :
    ∀ plan ∈ t.plans, Planned plan := by
  cases l with
  | install manifest displayName config secretValues =>
    obtain ⟨_, _, _, _, rfl⟩ := step_install h
    exact hs
  | updateConfig id manifest config secretValues =>
    obtain ⟨_, _, _, _, rfl⟩ := step_updateConfig h
    exact hs
  | setEnabled id enabled =>
    obtain ⟨_, _, rfl⟩ := Option.map_eq_some_iff.1 h
    exact hs
  | remove id =>
    obtain ⟨_, _, rfl⟩ := Option.map_eq_some_iff.1 h
    exact hs
  | plan id fromManifest toManifest =>
    obtain ⟨_, plan, _, hplan, rfl⟩ := step_plan h
    intro plan' hmem
    rcases List.mem_append.1 hmem with hmem | hmem
    · exact hs plan' hmem
    · obtain rfl := List.mem_singleton.1 hmem
      exact planned_of_plan hplan
  | apply id plan toManifest allowDowngrade =>
    obtain ⟨_, _, _, _, rfl⟩ := step_apply h
    exact hs

theorem State.Versioned.step (hs : s.Versioned) (h : step env s l = some t) : t.Versioned where
  plans := step_plans h hs.plans
  instances i new hnew := by
    rcases step_version h hnew with ⟨-, hvalid⟩ | ⟨old, hold, hsame | hupgrade⟩
    · exact hvalid
    · rw [hsame]
      exact hs.instances i old hold
    · -- the manifest of an upgrade is not validated again: its version is that of the plan
      obtain ⟨plan, toManifest, _, -, hplan, hreviewed, hversion⟩ := hupgrade
      rw [hversion, hreviewed.toVersion]
      exact (hs.plans plan hplan).toVersion

theorem versioned_of_run {ok : State → Label → Prop} (h : Run (step env) ok State.initial s) :
    s.Versioned := by
  refine h.invariant ⟨fun i _ hi => ?_, fun _ hplan => ?_⟩ fun _ _ _ hs _ hstep => hs.step hstep
  · exact absurd hi Table.not_get_empty
  · exact absurd hplan List.not_mem_nil

/-! ## No silent downgrade -/

/-- In every sequence of calls, an instance's version decreases only in an upgrade with
    `allow_downgrade`, and an upgrade that is applied moves its instance from the version at
    which a given plan starts to a manifest with the version, the capabilities and the
    permissions of the plan. -/
theorem no_silent_downgrade (h : Run (step env) (fun _ _ => True) State.initial s)
    (hl : step env s l = some t) :
    (∀ (i : Id) old new, s.instances[i]? = some old → t.instances[i]? = some new →
      ∃ a b, semverTuple old.manifestVersion = some a ∧ semverTuple new.manifestVersion = some b ∧
        (b < a → ∃ plan toManifest, l = .apply i plan toManifest true)) ∧
    ∀ i plan toManifest allowDowngrade, l = .apply i plan toManifest allowDowngrade →
      plan ∈ s.plans ∧ ∃ old new, s.instances[i]? = some old ∧ t.instances[i]? = some new ∧
        old.manifestVersion = plan.fromVersion ∧ new.manifestVersion = toManifest.version ∧
        toManifest.version = plan.toVersion ∧ toManifest.capabilities = plan.toCapabilities ∧
        toManifest.requiredPermissions = plan.toRequiredPermissions := by
  have hs := versioned_of_run h
  have ht := hs.step hl
  constructor
  · intro i old new hold hnew
    obtain ⟨a, ha⟩ := semverTuple_isSome (hs.instances i old hold)
    obtain ⟨b, hb⟩ := semverTuple_isSome (ht.instances i new hnew)
    refine ⟨a, b, ha, hb, fun hlt => ?_⟩
    rcases step_version hl hnew with ⟨hnone, -⟩ | ⟨old', hold', hcases⟩
    · rw [hnone] at hold
      cases hold
    · obtain rfl := Option.some.inj (hold'.symm.trans hold)
      rcases hcases with hsame | ⟨plan, toManifest, allowDowngrade, rfl, hplan, hreviewed, hversion⟩
      · -- the version is the same, so it does not decrease
        rw [hsame, ha] at hb
        obtain rfl := Option.some.inj hb
        exact absurd hlt (lt_irrefl _)
      · rw [hreviewed.fromVersion] at ha
        rw [hversion, hreviewed.toVersion] at hb
        -- the instance is at the version from which the plan starts, so the direction is the plan's
        have hdir := (hs.plans plan hplan).direction a b ha hb hlt
        obtain rfl := hreviewed.downgrade hdir
        exact ⟨plan, toManifest, rfl⟩
  · rintro i plan toManifest allowDowngrade rfl
    obtain ⟨hplan, old, hold, hcheck, rfl⟩ := step_apply hl
    have hreviewed := reviewed_of_checkUpgrade hcheck
    exact ⟨hplan, old, _, hold, Table.get_insert_self, hreviewed.fromVersion, rfl,
      hreviewed.toVersion, hreviewed.capabilities, hreviewed.requiredPermissions⟩

/-- The plan from version 1.9.0 to version 1.10.0. -/
def minorUpgrade : ConnectorUpgradePlan where
  connectorId := "posture"
  fromVersion := "1.9.0"
  toVersion := "1.10.0"
  direction := .upgrade
  newCapabilities := []
  newRequiredPermissions := []
  toCapabilities := ["configuration.snapshot"]
  toRequiredPermissions := []

/-- Version 1.9.0 is installed, and an upgrade to version 1.10.0 is planned and applied. -/
theorem no_silent_downgrade_minorUpgrade :
    ∃ s t, Run (step plainEnv) (fun _ _ => True) State.initial s ∧
      step plainEnv s (.apply 0 minorUpgrade (snapshotManifest "1.10.0") false) = some t ∧
      ∀ (i : Id) old new, s.instances[i]? = some old → t.instances[i]? = some new →
        ∃ a b, semverTuple old.manifestVersion = some a ∧
          semverTuple new.manifestVersion = some b ∧ ¬ b < a := by
  obtain ⟨s, hs, t, ht⟩ : ∃ s, Run.exec (step plainEnv) State.initial
      [.install (snapshotManifest "1.9.0") "Posture" [("region", .str "eu")] [],
        .plan 0 (snapshotManifest "1.9.0") (snapshotManifest "1.10.0")] = some s ∧
      ∃ t, step plainEnv s (.apply 0 minorUpgrade (snapshotManifest "1.10.0") false) = some t :=
    ⟨_, rfl, _, rfl⟩
  have hrun := Run.of_exec_true _ hs
  refine ⟨s, t, hrun, ht, fun i old new hold hnew => ?_⟩
  obtain ⟨a, b, ha, hb, hallow⟩ := (no_silent_downgrade hrun ht).1 i old new hold hnew
  refine ⟨a, b, ha, hb, fun hlt => ?_⟩
  obtain ⟨_, _, happly⟩ := hallow hlt
  cases happly

end MiniGrc.ConnectorInstances
